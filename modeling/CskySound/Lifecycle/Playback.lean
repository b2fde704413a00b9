import CskySound.Lifecycle.Runs

/-!
# Playback

The controller has one stream, playback.  Seen from the ASoC core it is stopped or running:
`csky_i2s_trigger` on the playback stream starts it on `START`, `PAUSE_RELEASE` and `RESUME` and
stops it on `STOP`, `PAUSE_PUSH` and `SUSPEND`, and binding the card again stops it through
`csky_i2s_init`.  The registers refine that two-state machine.  Stopped, `IIS_AUDIOEN` and
`IIS_IMR` are clear, so the controller neither transmits nor raises FIFO interrupts; running,
`IIS_AUDIOEN` holds `AUDIOEN_IIS_EN` and the transmit FIFO is fed, by its empty interrupt in PIO
mode and by TX DMA otherwise.  No other callback writes these registers or `use_pio`.
-/

namespace CskySound.Lifecycle

open Foundation Driver Clock

inductive Playback
  | stopped
  | running
  deriving DecidableEq, Repr

def startCmds : List Int :=
  [SndrvPcmTrigger.start, SndrvPcmTrigger.pauseRelease, SndrvPcmTrigger.resume]

def stopCmds : List Int :=
  [SndrvPcmTrigger.stop, SndrvPcmTrigger.pausePush, SndrvPcmTrigger.suspend]

/-- What a call does to playback: only a trigger on the playback stream and `dai_probe` act. -/
def playbackStep (p : Playback) : DaiCall → Playback
  | .daiProbe => .stopped
  | .trigger stream cmd =>
    if stream = sndrvPcmStreamPlayback ∧ cmd ∈ startCmds then .running
    else if stream = sndrvPcmStreamPlayback ∧ cmd ∈ stopCmds then .stopped
    else p
  | _ => p

def playbackRun (p : Playback) (cs : List DaiCall) : Playback := cs.foldl playbackStep p

section

variable (hd : CskyI2sHeader)

/-- The registers of a controller in each playback state. -/
def PlaybackRegs (i2s : CskyI2s) : Playback → Prop
  | .stopped => i2s.regs .audioen = 0 ∧ i2s.regs .imr = 0
  | .running => i2s.regs .audioen = hd.audioenIisEn ∧
      if i2s.usePio then i2s.regs .imr = hd.iisFifointTxFifoEmpty
      else i2s.regs .dmacr = hd.dmacrEnTxDma

instance (i2s : CskyI2s) : DecidablePred (PlaybackRegs hd i2s) := fun
  | .stopped => inferInstanceAs (Decidable (_ ∧ _))
  | .running => inferInstanceAs (Decidable (_ ∧ _))

theorem playbackRegs_congr {i2s i2s' : CskyI2s} {p : Playback} (hpio : i2s'.usePio = i2s.usePio)
    (haudioen : i2s'.regs .audioen = i2s.regs .audioen) (himr : i2s'.regs .imr = i2s.regs .imr)
    (hdmacr : i2s'.regs .dmacr = i2s.regs .dmacr) (h : PlaybackRegs hd i2s p) :
    PlaybackRegs hd i2s' p := by
  cases p <;> simpa only [PlaybackRegs, hpio, haudioen, himr, hdmacr] using h

/-! ## One call -/

theorem cskyI2sInit_stopped (i2s : CskyI2s) : PlaybackRegs hd (cskyI2sInit hd i2s) .stopped := by
  simp [PlaybackRegs, cskyI2sInit]

theorem cskyI2sStartPlayback_running (i2s : CskyI2s) :
    PlaybackRegs hd (cskyI2sStartPlayback hd i2s) .running := by
  unfold cskyI2sStartPlayback
  split_ifs with hpio <;> simp [PlaybackRegs, hpio]

theorem cskyI2sStopPlayback_stopped (i2s : CskyI2s) :
    PlaybackRegs hd (cskyI2sStopPlayback i2s) .stopped := by
  simp [PlaybackRegs, cskyI2sStopPlayback]

theorem cskyI2sTrigger_spec (i2s : CskyI2s) (stream cmd : Int) {p : Playback}
    (h : PlaybackRegs hd i2s p) :
    PlaybackRegs hd (cskyI2sTrigger hd i2s stream cmd).2 (playbackStep p (.trigger stream cmd)) ∧
      ((cskyI2sTrigger hd i2s stream cmd).1 = 0 ↔
        stream = sndrvPcmStreamPlayback ∧ (cmd ∈ startCmds ∨ cmd ∈ stopCmds)) := by
  have hstart : cmd ∈ startCmds ↔ cmd = SndrvPcmTrigger.start ∨
      cmd = SndrvPcmTrigger.pauseRelease ∨ cmd = SndrvPcmTrigger.resume := by
    simp [startCmds]
  have hstop : cmd ∈ stopCmds ↔ cmd = SndrvPcmTrigger.stop ∨
      cmd = SndrvPcmTrigger.pausePush ∨ cmd = SndrvPcmTrigger.suspend := by
    simp [stopCmds]
  have hne : (-einval : Int) ≠ 0 := by decide
  simp only [cskyI2sTrigger, playbackStep, ← hstart, ← hstop]
  by_cases hs : stream = sndrvPcmStreamPlayback
  · by_cases h₁ : cmd ∈ startCmds
    · simp only [h₁, hs, and_self, if_true, true_or]
      exact ⟨cskyI2sStartPlayback_running hd i2s, trivial⟩
    by_cases h₂ : cmd ∈ stopCmds
    · simp only [h₁, h₂, hs, and_self, and_false, if_true, if_false, or_true]
      exact ⟨cskyI2sStopPlayback_stopped hd i2s, trivial⟩
    · simp only [h₁, h₂, hs, and_false, if_false, or_self, iff_false]
      exact ⟨h, hne⟩
  · simp only [hs, false_and, if_false, ite_self]
    exact ⟨h, by simpa using hne⟩

variable {hd} {clk : ClkOps}

theorem daiCall_playback {i2s i2s' : CskyI2s} {c : DaiCall} {r : Int} {p : Playback}
    (h : daiCall hd clk i2s c = some (r, i2s')) (hp : PlaybackRegs hd i2s p) :
    PlaybackRegs hd i2s' (playbackStep p c) := by
  cases c <;> simp only [daiCall] at h
  case hwParams params =>
    obtain ⟨hi, hregs⟩ := cskyI2sHwParams_frame h
    exact playbackRegs_congr hd (by rw [hi]) (hregs _ (by decide)) (hregs _ (by decide))
      (hregs _ (by decide)) hp
  all_goals obtain ⟨rfl, rfl⟩ := Prod.ext_iff.1 (Option.some.inj h)
  case daiProbe => exact cskyI2sInit_stopped hd i2s
  case setFmt fmt =>
    obtain ⟨hpio, hregs⟩ := cskyI2sSetFmt_frame hd i2s fmt
    exact playbackRegs_congr hd hpio (hregs _ (by decide)) (hregs _ (by decide))
      (hregs _ (by decide)) hp
  case trigger stream cmd => exact (cskyI2sTrigger_spec hd i2s stream cmd hp).1
  case irq val =>
    obtain ⟨-, hpio, hregs⟩ := cskyI2sIrqHandler_frame hd i2s val
    exact playbackRegs_congr hd hpio (hregs _ (by decide)) (hregs _ (by decide))
      (hregs _ (by decide)) hp
  all_goals exact hp

/-! ## Whole runs -/

theorem runCalls_playback {i2s i2s' : CskyI2s} {cs : List DaiCall} {p : Playback}
    (h : runCalls hd clk i2s cs = some i2s') (hp : PlaybackRegs hd i2s p) :
    PlaybackRegs hd i2s' (playbackRun p cs) := by
  induction cs generalizing i2s p with
  | nil =>
    cases h
    exact hp
  | cons c cs ih =>
    obtain ⟨_, _, hc, hrun⟩ := runCalls_cons h
    exact ih hrun (daiCall_playback hc hp)

/--
From the first binding of the card on, the registers follow playback on every run: the
controller transmits and raises FIFO interrupts only while the core has playback running, and
then it feeds the FIFO.
-/
theorem runCalls_playback_after_daiProbe {i2s i2s' : CskyI2s} {cs : List DaiCall}
    (h : runCalls hd clk i2s (.daiProbe :: cs) = some i2s') :
    PlaybackRegs hd i2s' (playbackRun .stopped cs) := by
  obtain ⟨_, _, hc, hrun⟩ := runCalls_cons h
  obtain ⟨-, rfl⟩ := Prod.ext_iff.1 (Option.some.inj hc)
  exact runCalls_playback hrun (cskyI2sInit_stopped hd i2s)

end

theorem runCalls_playback_after_daiProbe_start :
    let cs := [DaiCall.trigger sndrvPcmStreamPlayback SndrvPcmTrigger.start, .irq 0x10]
    let i2s' := (runCalls sampleHeader exactClk sampleProbed (.daiProbe :: cs)).getD sampleProbed
    runCalls sampleHeader exactClk sampleProbed (.daiProbe :: cs) = some i2s' ∧
      playbackRun .stopped cs = .running ∧ PlaybackRegs sampleHeader i2s' .running := by
  intro cs i2s'
  exact ⟨rfl, rfl, @runCalls_playback_after_daiProbe sampleHeader exactClk sampleProbed i2s' cs rfl⟩

/-! ## The transfer path not in use -/

/--
The registers of the transfer path the controller does not use stay quiet: in DMA mode every
FIFO interrupt is masked, and in PIO mode `IIS_DMACR` holds `0` or `dmacr₀`, its value before
the driver bound.
-/
def QuietPath (dmacr₀ : UInt32) (i2s : CskyI2s) : Prop :=
  if i2s.usePio then i2s.regs .dmacr = dmacr₀ ∨ i2s.regs .dmacr = 0 else i2s.regs .imr = 0

section

variable {hd : CskyI2sHeader} {clk : ClkOps} {dmacr₀ : UInt32}

theorem quietPath_congr {i2s i2s' : CskyI2s} (hpio : i2s'.usePio = i2s.usePio)
    (himr : i2s'.regs .imr = i2s.regs .imr) (hdmacr : i2s'.regs .dmacr = i2s.regs .dmacr)
    (h : QuietPath dmacr₀ i2s) : QuietPath dmacr₀ i2s' := by
  simpa only [QuietPath, hpio, himr, hdmacr] using h

theorem cskyI2sInit_quietPath {i2s : CskyI2s}
    (h : i2s.usePio = true → i2s.regs .dmacr = dmacr₀ ∨ i2s.regs .dmacr = 0) :
    QuietPath dmacr₀ (cskyI2sInit hd i2s) := by
  have himr : (cskyI2sInit hd i2s).regs .imr = 0 := by simp [cskyI2sInit]
  have hdmacr : (cskyI2sInit hd i2s).regs .dmacr = i2s.regs .dmacr := by simp [cskyI2sInit]
  unfold QuietPath
  split_ifs with hpio
  · rw [hdmacr]
    exact h (by simpa [cskyI2sInit] using hpio)
  · exact himr

theorem cskyI2sStartPlayback_quietPath {i2s : CskyI2s} (h : QuietPath dmacr₀ i2s) :
    QuietPath dmacr₀ (cskyI2sStartPlayback hd i2s) := by
  unfold cskyI2sStartPlayback QuietPath at *
  cases hpio : i2s.usePio <;> simpa [hpio] using h

theorem cskyI2sStopPlayback_quietPath (i2s : CskyI2s) :
    QuietPath dmacr₀ (cskyI2sStopPlayback i2s) := by
  simp [QuietPath, cskyI2sStopPlayback]

theorem cskyI2sTrigger_quietPath {i2s : CskyI2s} (stream cmd : Int) (h : QuietPath dmacr₀ i2s) :
    QuietPath dmacr₀ (cskyI2sTrigger hd i2s stream cmd).2 := by
  unfold cskyI2sTrigger
  split_ifs
  · exact cskyI2sStartPlayback_quietPath h
  · exact h
  · exact cskyI2sStopPlayback_quietPath i2s
  all_goals exact h

theorem daiCall_quietPath {i2s i2s' : CskyI2s} {c : DaiCall} {r : Int}
    (h : daiCall hd clk i2s c = some (r, i2s')) (hq : QuietPath dmacr₀ i2s) :
    QuietPath dmacr₀ i2s' := by
  have hpio : i2s'.usePio = i2s.usePio := by rw [daiCall_frame h]
  cases c
  case daiProbe =>
    obtain ⟨-, rfl⟩ := Prod.ext_iff.1 (Option.some.inj h)
    exact cskyI2sInit_quietPath fun hp => by simpa only [QuietPath, hp, if_true] using hq
  case trigger stream cmd =>
    obtain ⟨-, rfl⟩ := Prod.ext_iff.1 (Option.some.inj h)
    exact cskyI2sTrigger_quietPath stream cmd hq
  all_goals
    exact quietPath_congr hpio (daiCall_regs h _ (by simp [DaiCall.writes, divLevels]))
      (daiCall_regs h _ (by simp [DaiCall.writes, divLevels])) hq

theorem runCalls_quietPath {i2s i2s' : CskyI2s} {cs : List DaiCall}
    (h : runCalls hd clk i2s cs = some i2s') (hq : QuietPath dmacr₀ i2s) : QuietPath dmacr₀ i2s' := by
  induction cs generalizing i2s with
  | nil =>
    cases h
    exact hq
  | cons c cs ih =>
    obtain ⟨_, _, hc, hrun⟩ := runCalls_cons h
    exact ih hrun (daiCall_quietPath hc hq)

/--
The two transfer paths never mix: from the first binding of the card on, on every run, a
controller in DMA mode keeps every FIFO interrupt masked, and one in PIO mode never enables a DMA
request that was not enabled before the driver bound.
-/
theorem runCalls_quietPath_after_daiProbe {i2s i2s' : CskyI2s} {cs : List DaiCall}
    (h : runCalls hd clk i2s (.daiProbe :: cs) = some i2s') : QuietPath (i2s.regs .dmacr) i2s' := by
  obtain ⟨_, _, hc, hrun⟩ := runCalls_cons h
  obtain ⟨-, rfl⟩ := Prod.ext_iff.1 (Option.some.inj hc)
  exact runCalls_quietPath hrun (cskyI2sInit_quietPath fun _ => .inl rfl)

end

theorem runCalls_quietPath_after_daiProbe_start :
    let cs := [DaiCall.trigger sndrvPcmStreamPlayback SndrvPcmTrigger.start, .irq 0x10,
      .trigger sndrvPcmStreamPlayback SndrvPcmTrigger.stop]
    let i2s' := (runCalls sampleHeader exactClk sampleProbed (.daiProbe :: cs)).getD sampleProbed
    runCalls sampleHeader exactClk sampleProbed (.daiProbe :: cs) = some i2s' ∧
      QuietPath (sampleProbed.regs .dmacr) i2s' := by
  intro cs i2s'
  exact ⟨rfl, @runCalls_quietPath_after_daiProbe sampleHeader exactClk sampleProbed i2s' cs rfl⟩

end CskySound.Lifecycle
