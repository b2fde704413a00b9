import CskySound.Clock.History
import CskySound.Driver.Dai

/-!
# What `hw_params` returns

`csky_i2s_dai` advertises a playback stream of one or two channels, nine rates and four formats,
and the PCM core passes `hw_params` only parameters of that stream.  The nine rates are exactly
the two families of `csky_i2s_set_clk_rate`'s `switch (rate)`, and `csky_i2s_hw_params` refuses
no advertised stream of its own: on each it is defined and returns what the calculator decides
for the rate.  A refusal of the clock comes after `IIS_FSSTA` and the DMA bus width were
written, and a success repeated with the same parameters changes nothing.
-/

namespace CskySound.Clock

open Foundation Driver

theorem rateFamily_isSome_iff_mem_rates (rate : UInt32) :
    (rateFamily rate).isSome ↔ rate ∈ sndPcmRatesOf cskyI2sDai.playback.rates := by
  rw [sndPcmRatesOf_cskyI2sDai]
  unfold rateFamily
  split_ifs with h48k h44k
  · rcases h48k with rfl | rfl | rfl | rfl | rfl <;> decide
  · rcases h44k with rfl | rfl | rfl | rfl <;> decide
  · simp only [Option.isSome_none, Bool.false_eq_true, false_iff, List.mem_cons, List.not_mem_nil,
      or_false]
    rintro (rfl | rfl | rfl | rfl | rfl | rfl | rfl | rfl | rfl) <;>
      first | exact h48k (by decide) | exact h44k (by decide)

theorem rate_ne_zero_of_admits {params : SndPcmHwParams} (h : cskyI2sDai.playback.Admits params) :
    params.rate ≠ 0 := by
  intro h0
  have hmem := h.2.2.1
  rw [sndPcmRatesOf_cskyI2sDai, h0] at hmem
  exact absurd hmem (by decide)

theorem physicalWidthConfig_of_admits (hd : CskyI2sHeader) {params : SndPcmHwParams}
    (h : cskyI2sDai.playback.Admits params) :
    ∃ width res, physicalWidthConfig hd params = some (width, res) := by
  have hmem := h.2.2.2
  rw [sndPcmFormatsOf_cskyI2sDai] at hmem
  simp only [List.mem_cons, Prod.mk.injEq, List.not_mem_nil, or_false] at hmem
  unfold physicalWidthConfig
  rcases hmem with ⟨-, h16⟩ | ⟨-, h16⟩ | ⟨-, h32⟩ | ⟨-, h32⟩ <;> simp [*]

theorem cskyI2sSetClkRate_ret (clk : ClkOps) {s t : CskyI2s} (h : ClkInputsAgree s t)
    {rate : UInt32} (wordSize : UInt32) (hrate : rate ≠ 0) :
    ∃ s', cskyI2sSetClkRate clk s rate wordSize =
      some (match clkRateOutcome clk t rate with
        | .ok _ => 0
        | .error ret => ret, s') := by
  obtain ⟨s', hs⟩ := cskyI2sSetClkRate_spec clk s rate wordSize hrate
  rw [clkRateOutcome_eq_of_agree clk h] at hs
  refine ⟨s', ?_⟩
  revert hs
  rcases clkRateOutcome clk t rate with ret | d <;> exact fun hs => hs.1

theorem cskyI2sSetClkRate_refused {clk : ClkOps} {s s' : CskyI2s} {rate wordSize : UInt32}
    {r : Int} (h : cskyI2sSetClkRate clk s rate wordSize = some (r, s')) (hr : r ≠ 0) :
    clkRateOutcome clk s rate = .error r ∧ s'.regs = s.regs := by
  rcases eq_or_ne rate 0 with rfl | hrate
  · unfold cskyI2sSetClkRate at h
    unfold clkRateOutcome
    rcases hsel : cskyI2sSetSrcClk clk s 0 with ret | s₁ <;> rw [hsel] at h <;> dsimp only at h ⊢
    · cases h
      exact ⟨rfl, rfl⟩
    · rw [cskyI2sSetClkDividers_zero] at h
      cases h
  obtain ⟨s'', hs⟩ := cskyI2sSetClkRate_spec clk s rate wordSize hrate
  split at hs <;> rw [hs.1, Option.some.injEq, Prod.mk.injEq] at h
  · exact absurd h.1.symm hr
  · obtain ⟨rfl, rfl⟩ := h
    exact ⟨‹_›, hs.2⟩

/--
On every stream `csky_i2s_dai` advertises, `csky_i2s_hw_params` is defined and returns zero when
the calculator accepts the rate on the clocks in force, and the calculator's errno when it
refuses: the channel and width checks never refuse such a stream.
-/
theorem cskyI2sHwParams_of_admits (hd : CskyI2sHeader) (clk : ClkOps) (i2s : CskyI2s)
    {params : SndPcmHwParams} (h : cskyI2sDai.playback.Admits params) :
    ∃ i2s', cskyI2sHwParams hd clk i2s params =
      some (match clkRateOutcome clk i2s params.rate with
        | .ok _ => 0
        | .error ret => ret, i2s') := by
  obtain ⟨width, res, hcfg⟩ := physicalWidthConfig_of_admits hd h
  have hch : ¬params.channels > 2 := UInt32.not_lt.2 h.2.1
  unfold cskyI2sHwParams
  rw [if_neg hch, hcfg]
  dsimp only
  refine cskyI2sSetClkRate_ret clk ?_ _ (rate_ne_zero_of_admits h)
  exact ⟨rfl, rfl, fun _ => rfl, rfl, rfl, rfl, rfl⟩

/--
`csky_i2s_hw_params` refuses in two ways.  Its own checks refuse with `-EINVAL` before anything
is written.  A refusal of the clock is the calculator's, and comes after the new stream's
resolution went into `IIS_FSSTA` and its bus width into the DMA data: both stay, though no
divider was written.
-/
theorem cskyI2sHwParams_refused (hd : CskyI2sHeader) (clk : ClkOps) {i2s i2s' : CskyI2s}
    {params : SndPcmHwParams} {r : Int} (h : cskyI2sHwParams hd clk i2s params = some (r, i2s'))
    (hr : r ≠ 0) :
    (r = -einval ∧ i2s' = i2s) ∨
      ∃ width res, physicalWidthConfig hd params = some (width, res) ∧
        clkRateOutcome clk i2s params.rate = .error r ∧
        i2s'.playbackDmaData.addrWidth = width ∧
        i2s'.regs = (i2s.writel .fssta
          (i2s.regs .fssta &&& ~~~(hd.fsstaResMask <<< hd.fsstaResShift) ||| res)).regs := by
  unfold cskyI2sHwParams at h
  split_ifs at h
  · cases h
    exact .inl ⟨rfl, rfl⟩
  split at h
  · cases h
    exact .inl ⟨rfl, rfl⟩
  rename_i width res hcfg
  obtain ⟨ho, hregs⟩ := cskyI2sSetClkRate_refused h hr
  have hagree : ∀ v, ClkInputsAgree
      ({ i2s with playbackDmaData := { i2s.playbackDmaData with addrWidth := width } }.writel .fssta v)
      i2s := fun _ => ⟨rfl, rfl, fun _ => rfl, rfl, rfl, rfl, rfl⟩
  rw [clkRateOutcome_eq_of_agree clk (hagree _)] at ho
  exact .inr ⟨width, res, hcfg, ho, by rw [(cskyI2sSetClkRate_frame h).1]; rfl, hregs⟩

theorem cskyI2sHwParams_refused_at_44k1 :
    let i2s' := ((cskyI2sHwParams sampleHeader exactClk specExampleI2s ⟨2, 16, 44100, 16⟩).getD
      (0, specExampleI2s)).2
    cskyI2sHwParams sampleHeader exactClk specExampleI2s ⟨2, 16, 44100, 16⟩ = some (-einval, i2s') ∧
      -einval ≠ 0 ∧
      ((-einval = -einval ∧ i2s' = specExampleI2s) ∨
        ∃ width res, physicalWidthConfig sampleHeader ⟨2, 16, 44100, 16⟩ = some (width, res) ∧
          clkRateOutcome exactClk specExampleI2s 44100 = .error (-einval) ∧
          i2s'.playbackDmaData.addrWidth = width ∧
          i2s'.regs = (specExampleI2s.writel .fssta (specExampleI2s.regs .fssta &&&
            ~~~(sampleHeader.fsstaResMask <<< sampleHeader.fsstaResShift) ||| res)).regs) := by
  intro i2s'
  have h : cskyI2sHwParams sampleHeader exactClk specExampleI2s ⟨2, 16, 44100, 16⟩ =
      some (-einval, i2s') := by rfl
  have hr : (-einval : Int) ≠ 0 := by decide
  exact ⟨h, hr, cskyI2sHwParams_refused sampleHeader exactClk h hr⟩

/-! ## A repeated `hw_params` -/

theorem programDividers_idem (d : ClkDividers) (regs : IisReg → UInt32) :
    programDividers d (programDividers d regs) = programDividers d regs := by
  funext reg
  unfold programDividers
  split <;> simp only [*]

theorem writel_regs_self_eq (i2s : CskyI2s) (reg : IisReg) : i2s.writel reg (i2s.regs reg) = i2s := by
  simp only [CskyI2s.writel, Function.update_eq_self]

theorem cskyI2sSetClkDividers_eq_ok {s s' : CskyI2s} {rate wordSize : UInt32}
    (h : cskyI2sSetClkDividers s rate wordSize = some (0, s')) :
    ∃ d, calcDividers (clockTreeOf s) rate.toNat = .ok d ∧ s' = { s with
      sampleRate := rate, sclkFsDivider := 64, mclkFsDivider := s.mclk / rate,
      regs := programDividers d s.regs } := by
  rcases eq_or_ne rate 0 with rfl | hrate
  · rw [cskyI2sSetClkDividers_zero] at h
    cases h
  have hspec := cskyI2sSetClkDividers_spec s rate wordSize (mt toNat_eq_zero.2 hrate)
  rcases hc : calcDividers (clockTreeOf s) rate.toNat with e | d <;> rw [hc] at hspec <;>
    dsimp only at hspec
  · obtain ⟨m, msgs, h'⟩ := hspec
    rw [h'] at h
    exact absurd (Prod.mk.inj (Option.some.inj h)).1 (by decide)
  rw [hspec, Option.some.injEq, Prod.mk.injEq] at h
  exact ⟨d, rfl, h.2.symm⟩

theorem cskyI2sSetClkDividers_repeat {s s' : CskyI2s} {rate wordSize : UInt32}
    (h : cskyI2sSetClkDividers s rate wordSize = some (0, s')) :
    cskyI2sSetClkDividers s' rate wordSize = some (0, s') := by
  rcases eq_or_ne rate 0 with rfl | hrate
  · rw [cskyI2sSetClkDividers_zero] at h
    cases h
  obtain ⟨d, hc, rfl⟩ := cskyI2sSetClkDividers_eq_ok h
  have hspec := cskyI2sSetClkDividers_spec { s with
      sampleRate := rate, sclkFsDivider := 64, mclkFsDivider := s.mclk / rate,
      regs := programDividers d s.regs } rate wordSize (mt toNat_eq_zero.2 hrate)
  rw [show clockTreeOf { s with
      sampleRate := rate, sclkFsDivider := 64, mclkFsDivider := s.mclk / rate,
      regs := programDividers d s.regs } = clockTreeOf s from rfl, hc] at hspec
  rw [hspec]
  dsimp only
  rw [programDividers_idem]

theorem cskyI2sSetSrcClk_repeat {clk : ClkOps} {s s₁ t : CskyI2s} {rate : UInt32}
    (h : cskyI2sSetSrcClk clk s rate = .ok s₁) (hclk : t.i2sClk = s.i2sClk)
    (hfs : t.clkFs = s.clkFs) (hsrc : t.srcClk = s₁.srcClk) :
    cskyI2sSetSrcClk clk t rate = .ok t := by
  unfold cskyI2sSetSrcClk at h ⊢
  cases hc : s.i2sClk
  · rw [if_neg (by rw [hclk, hc]; decide)]
  rw [if_pos (by rw [hclk, hc])]
  rw [hc, if_pos rfl] at h
  rcases hf : rateFamily rate with _ | family <;> simp only [hf] at h ⊢
  · cases h
  rw [hfs]
  split_ifs at h ⊢
  cases h
  rw [show clk.clkGetRate (s.clkFs family) = t.srcClk from hsrc.symm]

theorem cskyI2sSetClkRate_repeat {clk : ClkOps} {s s' : CskyI2s} {rate wordSize : UInt32}
    (h : cskyI2sSetClkRate clk s rate wordSize = some (0, s')) :
    cskyI2sSetClkRate clk s' rate wordSize = some (0, s') := by
  unfold cskyI2sSetClkRate at h ⊢
  rcases hsel : cskyI2sSetSrcClk clk s rate with ret | s₁ <;> rw [hsel] at h <;> dsimp only at h
  · exact absurd (Prod.mk.inj (Option.some.inj h)).1 (cskyI2sSetSrcClk_error hsel)
  have hs₁ := cskyI2sSetSrcClk_ok hsel
  obtain ⟨d, -, hs'⟩ := cskyI2sSetClkDividers_eq_ok h
  have hagain := @cskyI2sSetSrcClk_repeat clk s s₁ s' rate hsel (by rw [hs', hs₁])
    (by rw [hs', hs₁]; rfl) (by rw [hs'])
  rw [hagain]
  exact cskyI2sSetClkDividers_repeat h

/--
A `csky_i2s_hw_params` that succeeded succeeds again on the same parameters and changes
nothing: the ALSA core may repeat `hw_params` before `prepare`.
-/
theorem cskyI2sHwParams_repeat {hd : CskyI2sHeader} {clk : ClkOps} {i2s i2s' : CskyI2s}
    {params : SndPcmHwParams} (h : cskyI2sHwParams hd clk i2s params = some (0, i2s')) :
    cskyI2sHwParams hd clk i2s' params = some (0, i2s') := by
  have hne : ∀ {s : CskyI2s}, some (-einval, s) ≠ some (0, i2s') := fun h =>
    absurd (Prod.mk.inj (Option.some.inj h)).1 (by decide)
  unfold cskyI2sHwParams at h
  split_ifs at h with hch
  · exact absurd h hne
  split at h
  · exact absurd h hne
  rename_i width res hcfg
  obtain ⟨hi, hregs⟩ := cskyI2sSetClkRate_frame h
  have hdma : { i2s'.playbackDmaData with addrWidth := width } = i2s'.playbackDmaData := by
    rw [hi]
    rfl
  have hfssta : i2s'.readl .fssta &&& ~~~(hd.fsstaResMask <<< hd.fsstaResShift) ||| res =
      i2s'.regs .fssta := by
    rw [CskyI2s.readl_eq, hregs .fssta (by decide), CskyI2s.writel_regs_self,
      replaced_and_not (physicalWidthConfig_res hd hcfg)]
  unfold cskyI2sHwParams
  rw [if_neg hch, hcfg]
  dsimp only
  rw [hdma, hfssta, writel_regs_self_eq]
  exact cskyI2sSetClkRate_repeat h

theorem cskyI2sHwParams_repeat_stereo16 :
    let i2s' := ((cskyI2sHwParams sampleHeader exactClk specExampleI2s ⟨2, 16, 48000, 16⟩).getD
      (0, specExampleI2s)).2
    cskyI2sHwParams sampleHeader exactClk specExampleI2s ⟨2, 16, 48000, 16⟩ = some (0, i2s') ∧
      cskyI2sHwParams sampleHeader exactClk i2s' ⟨2, 16, 48000, 16⟩ = some (0, i2s') := by
  intro i2s'
  have h : cskyI2sHwParams sampleHeader exactClk specExampleI2s ⟨2, 16, 48000, 16⟩ =
      some (0, i2s') := by rfl
  exact ⟨h, cskyI2sHwParams_repeat h⟩

theorem cskyI2sHwParams_of_admits_mono24 :
    cskyI2sDai.playback.Admits ⟨1, 32, 44100, 24⟩ ∧
      ∃ i2s', cskyI2sHwParams sampleHeader exactClk specExampleI2s ⟨1, 32, 44100, 24⟩ =
        some (match clkRateOutcome exactClk specExampleI2s 44100 with
          | .ok _ => 0
          | .error ret => ret, i2s') :=
  have h : cskyI2sDai.playback.Admits ⟨1, 32, 44100, 24⟩ := by decide
  ⟨h, cskyI2sHwParams_of_admits sampleHeader exactClk specExampleI2s h⟩

end CskySound.Clock
