import CskySound.Lifecycle.Runs

/-!
# The format the controller runs

`audio_fmt` shadows the format in the `AUDFMT` field of `IIS_IISCNF_OUT`: `csky_i2s_set_fmt`
writes both or neither, and no other callback writes either, except `csky_i2s_dai_probe`, whose
`csky_i2s_init` puts the field back to I2S and leaves `audio_fmt` as it is.  The core runs
`dai_probe` again whenever the card is bound again, so a run can leave the two apart.
-/

namespace CskySound.Lifecycle

open Foundation Driver Clock

section

variable (hd : CskyI2sHeader)

def audfmtField (val : UInt32) : UInt32 := val &&& hd.iiscnfOut.outAudfmtMask <<< hd.iiscnfOut.outAudfmtShift

def programmedAudioFmt (val : UInt32) : Option UInt32 :=
  if audfmtField hd val = hd.iiscnfOut.iiscnfOutAudfmtI2s then some SndSocDaifmt.i2s
  else if audfmtField hd val = hd.iiscnfOut.iiscnfOutAudfmtLeftJ then some SndSocDaifmt.leftJ
  else if audfmtField hd val = hd.iiscnfOut.iiscnfOutAudfmtRightJ then some SndSocDaifmt.rightJ
  else none

def FmtAgrees (i2s : CskyI2s) : Prop :=
  programmedAudioFmt hd (i2s.regs .iiscnfOut) = some i2s.audioFmt

instance : DecidablePred (FmtAgrees hd) := fun _ => inferInstanceAs (Decidable (_ = _))

end

def FmtValid (i2s : CskyI2s) : Prop :=
  i2s.audioFmt = SndSocDaifmt.i2s ∨ i2s.audioFmt = SndSocDaifmt.leftJ ∨
    i2s.audioFmt = SndSocDaifmt.rightJ

instance : DecidablePred FmtValid := fun _ => inferInstanceAs (Decidable (_ ∨ _))

section

variable {hd : CskyI2sHeader} {clk : ClkOps}

theorem programmedAudioFmt_of_audfmtOf {val format audfmt : UInt32}
    (h : audfmtOf hd format = some audfmt) (hf : audfmtField hd val = audfmt) :
    programmedAudioFmt hd val = some format := by
  have h₁ := hd.iiscnfOut.audfmtI2s_ne_leftJ
  have h₂ := hd.iiscnfOut.audfmtI2s_ne_rightJ
  have h₃ := hd.iiscnfOut.audfmtLeftJ_ne_rightJ
  unfold audfmtOf at h
  split_ifs at h <;> cases h <;> subst_vars <;>
    simp [programmedAudioFmt, hf, h₁, h₂, h₃, h₁.symm, h₂.symm, h₃.symm]

theorem audfmtOf_valid {format audfmt : UInt32} (h : audfmtOf hd format = some audfmt) :
    format = SndSocDaifmt.i2s ∨ format = SndSocDaifmt.leftJ ∨ format = SndSocDaifmt.rightJ := by
  unfold audfmtOf at h
  split_ifs at h with hi hl hr
  · exact .inl hi
  · exact .inr (.inl hl)
  · exact .inr (.inr hr)

theorem programmedAudioFmt_init :
    programmedAudioFmt hd
      (hd.iiscnfOut.iiscnfOutAudfmtI2s ||| hd.iiscnfOut.iiscnfOutWsPolarityNormal ||| hd.iiscnfOut.iiscnfOutMaster) =
      some SndSocDaifmt.i2s := by
  have hf : audfmtField hd
      (hd.iiscnfOut.iiscnfOutAudfmtI2s ||| hd.iiscnfOut.iiscnfOutWsPolarityNormal ||| hd.iiscnfOut.iiscnfOutMaster) =
      hd.iiscnfOut.iiscnfOutAudfmtI2s := by
    rw [audfmtField, or_and_of_and_eq_zero hd.iiscnfOut.master_disjoint,
      or_and_of_and_eq_zero hd.iiscnfOut.wsPolarityNormal_disjoint, hd.iiscnfOut.audfmtI2s_mem]
  simp [programmedAudioFmt, hf]

/-! ## One call -/

theorem cskyI2sSetFmt_spec (i2s : CskyI2s) (fmt : UInt32) :
    ((cskyI2sSetFmt hd i2s fmt).1 = 0 ∧ FmtValid (cskyI2sSetFmt hd i2s fmt).2 ∧
      FmtAgrees hd (cskyI2sSetFmt hd i2s fmt).2) ∨
    cskyI2sSetFmt hd i2s fmt = (-einval, i2s) := by
  rcases cskyI2sSetFmt_cases hd i2s fmt with ⟨audfmt, polarity, ms, ha, hp, hm, h⟩ | h
  · refine .inl ?_
    rw [h]
    have hf : audfmtField hd (iiscnfOutCleared hd (i2s.regs .iiscnfOut) ||| audfmt ||| polarity |||
        ms) = audfmt := by
      rw [audfmtField, or_and_of_and_eq_zero (masterSlaveOf_and_field hd hm),
        or_and_of_and_eq_zero (wsPolarityOf_and_field hd hp), iiscnfOutCleared,
        cleared_or_and (audfmtOf_and_field hd ha)]
    exact ⟨rfl, audfmtOf_valid ha, by
      simpa [FmtAgrees] using programmedAudioFmt_of_audfmtOf ha hf⟩
  · exact .inr h

theorem daiCall_cases {i2s i2s' : CskyI2s} {c : DaiCall} {r : Int}
    (h : daiCall hd clk i2s c = some (r, i2s')) :
    (c = .daiProbe ∧ i2s'.audioFmt = i2s.audioFmt ∧
      programmedAudioFmt hd (i2s'.regs .iiscnfOut) = some SndSocDaifmt.i2s) ∨
    (FmtValid i2s' ∧ FmtAgrees hd i2s') ∨
    (i2s'.audioFmt = i2s.audioFmt ∧ i2s'.regs .iiscnfOut = i2s.regs .iiscnfOut) := by
  cases c <;> simp only [daiCall] at h
  case hwParams params =>
    obtain ⟨hi, hregs⟩ := cskyI2sHwParams_frame h
    exact .inr (.inr ⟨by rw [hi], hregs _ (by decide)⟩)
  all_goals obtain ⟨rfl, rfl⟩ := Prod.ext_iff.1 (Option.some.inj h)
  case daiProbe =>
    exact .inl ⟨rfl, cskyI2sInit_audioFmt hd i2s,
      by rw [cskyI2sDaiProbe, cskyI2sInit_iiscnfOut]; exact programmedAudioFmt_init⟩
  case setFmt fmt =>
    rcases @cskyI2sSetFmt_spec hd i2s fmt with ⟨-, hv, ha⟩ | he
    · exact .inr (.inl ⟨hv, ha⟩)
    · rw [he]
      exact .inr (.inr ⟨rfl, rfl⟩)
  case trigger stream cmd => exact .inr (.inr (cskyI2sTrigger_frame hd i2s stream cmd))
  case irq val =>
    obtain ⟨hfmt, -, hregs⟩ := cskyI2sIrqHandler_frame hd i2s val
    exact .inr (.inr ⟨hfmt, hregs _ (by decide)⟩)
  all_goals exact .inr (.inr ⟨rfl, rfl⟩)

theorem daiCall_fmtValid {i2s i2s' : CskyI2s} {c : DaiCall} {r : Int}
    (h : daiCall hd clk i2s c = some (r, i2s')) (hv : FmtValid i2s) : FmtValid i2s' := by
  rcases daiCall_cases h with ⟨-, hfmt, -⟩ | ⟨hv', -⟩ | ⟨hfmt, -⟩
  · simpa [FmtValid, hfmt] using hv
  · exact hv'
  · simpa [FmtValid, hfmt] using hv

theorem daiCall_fmtAgrees {i2s i2s' : CskyI2s} {c : DaiCall} {r : Int} (hc : c ≠ .daiProbe)
    (h : daiCall hd clk i2s c = some (r, i2s')) (ha : FmtAgrees hd i2s) : FmtAgrees hd i2s' := by
  rcases daiCall_cases h with ⟨rfl, -, -⟩ | ⟨-, ha'⟩ | ⟨hfmt, hreg⟩
  · exact absurd rfl hc
  · exact ha'
  · rwa [FmtAgrees, hfmt, hreg]

theorem daiProbe_fmtAgrees_iff (i2s : CskyI2s) :
    FmtAgrees hd (cskyI2sDaiProbe hd i2s).2 ↔ i2s.audioFmt = SndSocDaifmt.i2s := by
  simp only [FmtAgrees, cskyI2sDaiProbe, cskyI2sInit_iiscnfOut, cskyI2sInit_audioFmt,
    programmedAudioFmt_init, Option.some.injEq]
  exact eq_comm

/-! ## Whole runs -/

theorem runCalls_fmtValid {i2s i2s' : CskyI2s} {cs : List DaiCall}
    (h : runCalls hd clk i2s cs = some i2s') (hv : FmtValid i2s) : FmtValid i2s' := by
  induction cs generalizing i2s with
  | nil =>
    cases h
    exact hv
  | cons c cs ih =>
    obtain ⟨_, _, hc, hrun⟩ := runCalls_cons h
    exact ih hrun (daiCall_fmtValid hc hv)

theorem runCalls_fmtAgrees {i2s i2s' : CskyI2s} {cs : List DaiCall}
    (hcs : DaiCall.daiProbe ∉ cs) (h : runCalls hd clk i2s cs = some i2s')
    (ha : FmtAgrees hd i2s) : FmtAgrees hd i2s' := by
  induction cs generalizing i2s with
  | nil =>
    cases h
    exact ha
  | cons c cs ih =>
    obtain ⟨_, _, hc, hrun⟩ := runCalls_cons h
    rw [List.mem_cons, not_or] at hcs
    exact ih hcs.2 hrun (daiCall_fmtAgrees (Ne.symm hcs.1) hc ha)

/-! ## From `probe` on -/

/-- On every run after a successful probe, `audio_fmt` is I2S, LEFT_J or RIGHT_J. -/
theorem cskyI2sProbe_runCalls_fmtValid {pdev : PlatformDevice} {i2s i2s' : CskyI2s}
    {cs : List DaiCall} (hp : cskyI2sProbe hd pdev = .ok i2s)
    (h : runCalls hd clk i2s cs = some i2s') : FmtValid i2s' :=
  runCalls_fmtValid h (.inl (cskyI2sProbe_audioFmt hp))

theorem cskyI2sProbe_runCalls_fmtValid_leftJ :
    let cs := [DaiCall.daiProbe,
      .setFmt (SndSocDaifmt.leftJ ||| SndSocDaifmt.nbNf ||| SndSocDaifmt.cbsCfs)]
    let i2s' := (runCalls sampleHeader exactClk sampleProbed cs).getD sampleProbed
    cskyI2sProbe sampleHeader samplePlatformDevice = .ok sampleProbed ∧
      runCalls sampleHeader exactClk sampleProbed cs = some i2s' ∧ FmtValid i2s' :=
  by
  intro cs i2s'
  exact ⟨rfl, rfl, @cskyI2sProbe_runCalls_fmtValid sampleHeader exactClk samplePlatformDevice
    sampleProbed i2s' cs rfl rfl⟩

/--
After a successful probe and the first `dai_probe`, `audio_fmt` agrees with the register for
as long as `dai_probe` does not run again.
-/
theorem cskyI2sProbe_daiProbe_fmtAgrees {pdev : PlatformDevice} {i2s i2s' : CskyI2s}
    {cs : List DaiCall} (hp : cskyI2sProbe hd pdev = .ok i2s) (hcs : DaiCall.daiProbe ∉ cs)
    (h : runCalls hd clk (cskyI2sDaiProbe hd i2s).2 cs = some i2s') : FmtAgrees hd i2s' :=
  runCalls_fmtAgrees hcs h ((daiProbe_fmtAgrees_iff i2s).2 (cskyI2sProbe_audioFmt hp))

theorem cskyI2sProbe_daiProbe_fmtAgrees_leftJ :
    let cs := [DaiCall.setFmt (SndSocDaifmt.leftJ ||| SndSocDaifmt.nbNf ||| SndSocDaifmt.cbsCfs),
      .trigger sndrvPcmStreamPlayback SndrvPcmTrigger.start]
    let i2s₁ := (cskyI2sDaiProbe sampleHeader sampleProbed).2
    let i2s' := (runCalls sampleHeader exactClk i2s₁ cs).getD i2s₁
    cskyI2sProbe sampleHeader samplePlatformDevice = .ok sampleProbed ∧ DaiCall.daiProbe ∉ cs ∧
      runCalls sampleHeader exactClk i2s₁ cs = some i2s' ∧ FmtAgrees sampleHeader i2s' :=
  by
  intro cs _ i2s'
  exact ⟨rfl, by decide, rfl, @cskyI2sProbe_daiProbe_fmtAgrees sampleHeader exactClk
    samplePlatformDevice sampleProbed i2s' cs rfl (by decide) rfl⟩

theorem audfmtOf_leftJ : audfmtOf hd SndSocDaifmt.leftJ = some hd.iiscnfOut.iiscnfOutAudfmtLeftJ := rfl

theorem wsPolarityOf_nbNf : wsPolarityOf hd SndSocDaifmt.nbNf = some hd.iiscnfOut.iiscnfOutWsPolarityNormal :=
  rfl

theorem masterSlaveOf_cbsCfs : masterSlaveOf hd SndSocDaifmt.cbsCfs = some hd.iiscnfOut.iiscnfOutMaster :=
  rfl

/--
Binding the card again after `set_fmt(LEFT_J)` runs `csky_i2s_init` again: the controller is
back at I2S while `audio_fmt` still says LEFT_J, whatever the state and the header's layout.
-/
theorem runCalls_rebind_after_leftJ (hd : CskyI2sHeader) (clk : ClkOps) (i2s : CskyI2s) :
    ∃ i2s', runCalls hd clk i2s [.daiProbe,
        .setFmt (SndSocDaifmt.leftJ ||| SndSocDaifmt.nbNf ||| SndSocDaifmt.cbsCfs), .daiProbe] =
        some i2s' ∧
      i2s'.audioFmt = SndSocDaifmt.leftJ ∧
      programmedAudioFmt hd (i2s'.regs .iiscnfOut) = some SndSocDaifmt.i2s := by
  have h₁ : (SndSocDaifmt.leftJ ||| SndSocDaifmt.nbNf ||| SndSocDaifmt.cbsCfs) &&&
      SndSocDaifmt.formatMask = SndSocDaifmt.leftJ := by decide
  have h₂ : (SndSocDaifmt.leftJ ||| SndSocDaifmt.nbNf ||| SndSocDaifmt.cbsCfs) &&&
      SndSocDaifmt.invMask = SndSocDaifmt.nbNf := by decide
  have h₃ : (SndSocDaifmt.leftJ ||| SndSocDaifmt.nbNf ||| SndSocDaifmt.cbsCfs) &&&
      SndSocDaifmt.masterMask = SndSocDaifmt.cbsCfs := by decide
  simp only [runCalls, daiCall, cskyI2sDaiProbe, cskyI2sSetFmt, h₁, h₂, h₃, audfmtOf_leftJ,
    wsPolarityOf_nbNf, masterSlaveOf_cbsCfs]
  exact ⟨_, rfl, by simp only [cskyI2sInit_audioFmt],
    by rw [cskyI2sInit_iiscnfOut]; exact programmedAudioFmt_init⟩

end

end CskySound.Lifecycle
