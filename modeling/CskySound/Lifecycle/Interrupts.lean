import CskySound.Lifecycle.Runs

/-!
# The interrupt handler against the callbacks

`csky_i2s_irq_handler` runs whenever the controller raises its line, between the callbacks of
the ASoC core, and the driver takes no lock against it.  It acknowledges the status the
controller reports by writing it to `IIS_FICR`, and on a transmit-FIFO-empty interrupt in PIO
mode it calls `csky_pcm_pio_push_tx`.  No callback reads `IIS_FICR` or the push count, none
writes the push count or `use_pio`, and only `csky_i2s_dai_probe` writes `IIS_FICR`.  So the
handler commutes with every call that does not write `IIS_FICR`: within a stretch of callbacks
without `dai_probe` or another interrupt it does not matter between which two calls an
interrupt is handled.  Interrupts do not coalesce: every transmit-FIFO-empty interrupt in PIO
mode makes one push, and the push count of a run is the number of such interrupts in it.

Each lemma of the first part says that a function neither reads nor writes a register outside
its write set, nor reads or writes the push count: it commutes with the effect of an interrupt
on such a register.
-/

namespace CskySound.Lifecycle

open Foundation Driver Clock

/-! ## Callbacks against an interrupt on another register -/

theorem mclkFsDivError_irqEffect (i2s : CskyI2s) (reg : IisReg) (v : UInt32) (n : Nat) :
    mclkFsDivError (i2s.irqEffect reg v n) = mclkFsDivError i2s := rfl

theorem cskyI2sCalcMclkDiv_irqEffect (i2s : CskyI2s) (rate wordSize : UInt32) (reg : IisReg)
    (v : UInt32) (n : Nat) :
    cskyI2sCalcMclkDiv (i2s.irqEffect reg v n) rate wordSize =
      (cskyI2sCalcMclkDiv i2s rate wordSize).map (Prod.map id (·.irqEffect reg v n)) := by
  unfold cskyI2sCalcMclkDiv
  rw [mclkFsDivError_irqEffect]
  simp only [Option.bind_eq_bind, Option.map_bind, Function.comp_def]
  congr 1
  funext m
  rw [apply_ite (Option.map _)]
  refine ite_congr rfl (fun _ => rfl) (fun _ => ?_)
  simp only [Option.map_bind, Function.comp_def]
  congr 1
  funext d
  rcases mclkFsDivError i2s d with _ | msg
  · simp only [Option.map_bind, Function.comp_def, apply_ite (Option.map _), Option.pure_def,
      Option.map_some', Prod.map, id_eq]
    rfl
  · rfl

theorem cskyI2sSetClkDividers_irqEffect (i2s : CskyI2s) (rate wordSize : UInt32)
    {reg : IisReg} (hreg : reg ∉ divLevels) (v : UInt32) (n : Nat) :
    cskyI2sSetClkDividers (i2s.irqEffect reg v n) rate wordSize =
      (cskyI2sSetClkDividers i2s rate wordSize).map (Prod.map id (·.irqEffect reg v n)) := by
  have hm := cskyI2sCalcMclkDiv_irqEffect { i2s with sampleRate := rate, sclkFsDivider := 64 }
    rate wordSize reg v n
  unfold cskyI2sSetClkDividers
  simp only [cskyI2sCalcFsDiv_eq, show ¬fsDiv < 0 by decide, if_false]
  erw [hm]
  rcases cskyI2sCalcMclkDiv { i2s with sampleRate := rate, sclkFsDivider := 64 } rate wordSize
    with _ | ⟨m, t⟩
  · rfl
  have hne : ∀ r ∈ divLevels, reg ≠ r := fun r hr h => hreg (h ▸ hr)
  have hsclk : cskyI2sCalcSclkDiv (t.irqEffect reg v n) = cskyI2sCalcSclkDiv t := rfl
  have href : cskyI2sCalcRefclkDiv (t.irqEffect reg v n) rate = cskyI2sCalcRefclkDiv t rate := rfl
  have hparams : (t.irqEffect reg v n).params = t.params := rfl
  simp only [Option.map_some', Prod.map, id_eq, Option.bind_eq_bind, Option.some_bind, hsclk, href,
    hparams, cskyI2sCalcSpdifclkDiv, show ¬(17 : Int) < 0 by decide, if_false,
    CskyI2s.irqEffect_writel _ (hne _ (by decide : IisReg.div0Level ∈ divLevels)),
    CskyI2s.irqEffect_writel _ (hne _ (by decide : IisReg.div1Level ∈ divLevels)),
    CskyI2s.irqEffect_writel _ (hne _ (by decide : IisReg.div2Level ∈ divLevels)),
    CskyI2s.irqEffect_writel _ (hne _ (by decide : IisReg.div3Level ∈ divLevels)),
    CskyI2s.irqEffect_writel _ (hne _ (by decide : IisReg.div4Level ∈ divLevels))]
  rw [apply_ite (Option.map _)]
  refine ite_congr rfl (fun _ => rfl) (fun _ => ?_)
  rw [apply_ite (Option.map _)]
  refine ite_congr rfl (fun _ => ?_) (fun _ => ?_)
  · rcases cskyI2sCalcSclkDiv t with _ | s
    · rfl
    simp only [Option.map_some', Option.some_bind]
    split_ifs
    · rfl
    rcases cskyI2sCalcRefclkDiv t rate with _ | r
    · rfl
    simp only [Option.some_bind]
    split_ifs <;> rfl
  · simp only [Option.pure_def, Option.some_bind, Option.any_none, Bool.false_eq_true, if_false]
    rcases cskyI2sCalcRefclkDiv t rate with _ | r
    · rfl
    simp only [Option.some_bind]
    split_ifs <;> rfl

theorem cskyI2sSetSrcClk_irqEffect (clk : ClkOps) (i2s : CskyI2s) (rate : UInt32) (reg : IisReg)
    (v : UInt32) (n : Nat) :
    cskyI2sSetSrcClk clk (i2s.irqEffect reg v n) rate =
      (cskyI2sSetSrcClk clk i2s rate).map (·.irqEffect reg v n) := by
  simp only [cskyI2sSetSrcClk, CskyI2s.irqEffect, CskyI2s.writel, CskyI2s.clkFs]
  split_ifs
  · split <;> [rfl; (split_ifs <;> rfl)]
  · rfl

theorem cskyI2sSetClkRate_irqEffect (clk : ClkOps) (i2s : CskyI2s) (rate wordSize : UInt32)
    {reg : IisReg} (hreg : reg ∉ divLevels) (v : UInt32) (n : Nat) :
    cskyI2sSetClkRate clk (i2s.irqEffect reg v n) rate wordSize =
      (cskyI2sSetClkRate clk i2s rate wordSize).map (Prod.map id (·.irqEffect reg v n)) := by
  unfold cskyI2sSetClkRate
  rw [cskyI2sSetSrcClk_irqEffect]
  rcases cskyI2sSetSrcClk clk i2s rate with ret | i2s₁
  · rfl
  · exact cskyI2sSetClkDividers_irqEffect i2s₁ rate wordSize hreg v n

section

variable (hd : CskyI2sHeader)

theorem cskyI2sHwParams_irqEffect (clk : ClkOps) (i2s : CskyI2s) (params : SndPcmHwParams)
    {reg : IisReg} (hreg : reg ∉ IisReg.fssta :: divLevels) (v : UInt32) (n : Nat) :
    cskyI2sHwParams hd clk (i2s.irqEffect reg v n) params =
      (cskyI2sHwParams hd clk i2s params).map (Prod.map id (·.irqEffect reg v n)) := by
  rw [List.mem_cons, not_or] at hreg
  unfold cskyI2sHwParams
  simp only [CskyI2s.readl_eq, CskyI2s.irqEffect_regs_of_ne _ _ _ (Ne.symm hreg.1)]
  split_ifs
  · rfl
  split
  · rfl
  rename_i width res _
  have h := cskyI2sSetClkRate_irqEffect clk
    (({ i2s with playbackDmaData := { i2s.playbackDmaData with addrWidth := width } }).writel .fssta
      (i2s.regs .fssta &&& ~~~(hd.fsstaResMask <<< hd.fsstaResShift) ||| res)) params.rate
    (ofInt params.width) hreg.2 v n
  rw [← CskyI2s.irqEffect_writel _ hreg.1] at h
  exact h

theorem cskyI2sSetFmt_irqEffect (i2s : CskyI2s) (fmt : UInt32) {reg : IisReg}
    (hreg : reg ≠ .iiscnfOut) (v : UInt32) (n : Nat) :
    cskyI2sSetFmt hd (i2s.irqEffect reg v n) fmt =
      Prod.map id (·.irqEffect reg v n) (cskyI2sSetFmt hd i2s fmt) := by
  unfold cskyI2sSetFmt
  simp only [CskyI2s.readl_eq, CskyI2s.irqEffect_regs_of_ne _ _ _ hreg.symm]
  split
  · simp only [CskyI2s.irqEffect_writel _ hreg]
    rfl
  · rfl

theorem cskyI2sInit_irqEffect (i2s : CskyI2s) {reg : IisReg}
    (hreg : reg ∉ DaiCall.daiProbe.writes) (v : UInt32) (n : Nat) :
    cskyI2sInit hd (i2s.irqEffect reg v n) = (cskyI2sInit hd i2s).irqEffect reg v n := by
  simp only [DaiCall.writes, List.mem_cons, List.not_mem_nil, or_false, not_or] at hreg
  obtain ⟨h1, h2, h3, h4, h5, h6, h7, h8, h9, h10, h11, h12, h13, h14⟩ := hreg
  simp only [cskyI2sInit, CskyI2s.irqEffect_usePio,
    CskyI2s.irqEffect_writel _ h1, CskyI2s.irqEffect_writel _ h2, CskyI2s.irqEffect_writel _ h3,
    CskyI2s.irqEffect_writel _ h4, CskyI2s.irqEffect_writel _ h5, CskyI2s.irqEffect_writel _ h6,
    CskyI2s.irqEffect_writel _ h7, CskyI2s.irqEffect_writel _ h8, CskyI2s.irqEffect_writel _ h9,
    CskyI2s.irqEffect_writel _ h10, CskyI2s.irqEffect_writel _ h11,
    CskyI2s.irqEffect_writel _ h12, CskyI2s.irqEffect_writel _ h13,
    CskyI2s.irqEffect_writel _ h14]
  rfl

theorem cskyI2sTrigger_irqEffect (i2s : CskyI2s) (stream cmd : Int) {reg : IisReg}
    (hreg : reg ∉ [IisReg.imr, .dmacr, .audioen]) (v : UInt32) (n : Nat) :
    cskyI2sTrigger hd (i2s.irqEffect reg v n) stream cmd =
      Prod.map id (·.irqEffect reg v n) (cskyI2sTrigger hd i2s stream cmd) := by
  simp only [List.mem_cons, List.not_mem_nil, or_false, not_or] at hreg
  obtain ⟨h1, h2, h3⟩ := hreg
  have hstart : cskyI2sStartPlayback hd (i2s.irqEffect reg v n) =
      (cskyI2sStartPlayback hd i2s).irqEffect reg v n := by
    unfold cskyI2sStartPlayback
    simp only [CskyI2s.irqEffect_usePio]
    split_ifs <;> simp only [CskyI2s.irqEffect_writel _ h1, CskyI2s.irqEffect_writel _ h2,
      CskyI2s.irqEffect_writel _ h3]
  have hstop : cskyI2sStopPlayback (i2s.irqEffect reg v n) =
      (cskyI2sStopPlayback i2s).irqEffect reg v n := by
    simp only [cskyI2sStopPlayback, CskyI2s.irqEffect_writel _ h1, CskyI2s.irqEffect_writel _ h2,
      CskyI2s.irqEffect_writel _ h3]
  unfold cskyI2sTrigger
  simp only [hstart, hstop,
    apply_ite (Prod.map (id : Int → Int) fun s : CskyI2s => s.irqEffect reg v n),
    Prod.map_apply, id_eq]


variable {hd} {clk : ClkOps}

theorem daiCall_irqEffect {c : DaiCall} {reg : IisReg} (hreg : reg ∉ c.writes) (i2s : CskyI2s)
    (v : UInt32) (n : Nat) :
    daiCall hd clk (i2s.irqEffect reg v n) c =
      (daiCall hd clk i2s c).map (Prod.map id (·.irqEffect reg v n)) := by
  cases c <;> simp only [daiCall, Option.map_some']
  case daiProbe => rw [cskyI2sDaiProbe, cskyI2sInit_irqEffect hd i2s hreg v n]; rfl
  case setFmt fmt =>
    rw [cskyI2sSetFmt_irqEffect hd i2s fmt (by simpa [DaiCall.writes] using hreg)]
  case hwParams params => exact cskyI2sHwParams_irqEffect hd clk i2s params hreg v n
  case trigger stream cmd => rw [cskyI2sTrigger_irqEffect hd i2s stream cmd hreg]
  case irq val =>
    have hficr : reg ≠ .ficr := by simpa [DaiCall.writes] using hreg
    simp only [cskyI2sIrqHandler_eq, CskyI2s.irqEffect_usePio, Prod.map_apply, id_eq,
      CskyI2s.irqEffect_comm _ hficr]
  all_goals rfl

/-! ## The interrupt between two calls -/

theorem daiCall_irq_comm {c : DaiCall} (hc : IisReg.ficr ∉ c.writes) (i2s : CskyI2s)
    (val : UInt32) :
    daiCall hd clk (cskyI2sIrqHandler hd i2s val).2 c =
      (daiCall hd clk i2s c).map (Prod.map id fun i2s' => (cskyI2sIrqHandler hd i2s' val).2) := by
  rw [cskyI2sIrqHandler_eq, daiCall_irqEffect hc]
  rcases h : daiCall hd clk i2s c with _ | ⟨r, i2s'⟩
  · rfl
  have hpio : i2s'.usePio = i2s.usePio := by rw [daiCall_frame h]
  simp only [Option.map_some', Prod.map_apply, id_eq, cskyI2sIrqHandler_eq, hpio]

theorem runCalls_irq_cons {i2s : CskyI2s} {cs : List DaiCall} {val : UInt32}
    (h : ∀ c ∈ cs, IisReg.ficr ∉ c.writes) :
    runCalls hd clk i2s (.irq val :: cs) = runCalls hd clk i2s (cs ++ [.irq val]) := by
  induction cs generalizing i2s with
  | nil => rfl
  | cons c cs ih =>
    rw [List.forall_mem_cons] at h
    show runCalls hd clk (cskyI2sIrqHandler hd i2s val).2 (c :: cs) =
      runCalls hd clk i2s (c :: (cs ++ [.irq val]))
    simp only [runCalls]
    rw [daiCall_irq_comm h.1]
    rcases daiCall hd clk i2s c with _ | ⟨r, i2s'⟩
    · rfl
    · exact ih h.2

/-! ## The PIO pushes of a run -/

def DaiCall.isTxEmpty (hd : CskyI2sHeader) : DaiCall → Bool
  | .irq val => val &&& hd.iisFifointTxFifoEmpty != 0
  | _ => false

theorem daiCall_pioTxPushes {i2s i2s' : CskyI2s} {c : DaiCall} {r : Int}
    (h : daiCall hd clk i2s c = some (r, i2s')) :
    i2s'.pioTxPushes = i2s.pioTxPushes + if i2s.usePio ∧ c.isTxEmpty hd then 1 else 0 := by
  cases c <;> simp only [daiCall, DaiCall.isTxEmpty, Bool.false_eq_true, and_false, if_false,
    Nat.add_zero] at h ⊢
  case hwParams params => rw [(cskyI2sHwParams_frame h).1]
  all_goals obtain ⟨-, rfl⟩ := Prod.ext_iff.1 (Option.some.inj h)
  case daiProbe => rw [cskyI2sDaiProbe, cskyI2sInit_eq]
  case setFmt fmt =>
    rcases cskyI2sSetFmt_cases hd i2s fmt with ⟨_, _, _, _, _, _, he⟩ | he <;> rw [he]
    rfl
  case trigger stream cmd =>
    unfold cskyI2sTrigger cskyI2sStartPlayback cskyI2sStopPlayback
    split_ifs <;> rfl
  case irq val => simp [cskyI2sIrqHandler_eq, CskyI2s.irqEffect, txPushes]
  all_goals rfl

end

/--
`csky_pcm_pio_push_tx` runs once for every interrupt of a run that reports the transmit FIFO
empty when the controller is in PIO mode, and never otherwise: no callback calls it, and in DMA
mode no interrupt does.
-/
theorem runCalls_pioTxPushes {hd : CskyI2sHeader} {clk : ClkOps} {i2s i2s' : CskyI2s}
    {cs : List DaiCall} (h : runCalls hd clk i2s cs = some i2s') :
    i2s'.pioTxPushes =
      i2s.pioTxPushes + if i2s.usePio then cs.countP (DaiCall.isTxEmpty hd) else 0 := by
  induction cs generalizing i2s with
  | nil =>
    cases h
    simp
  | cons c cs ih =>
    obtain ⟨_, i2s₁, hc, hrun⟩ := runCalls_cons h
    have hpio : i2s₁.usePio = i2s.usePio := by rw [daiCall_frame hc]
    rw [ih hrun, daiCall_pioTxPushes hc, hpio, List.countP_cons]
    cases i2s.usePio <;> cases c.isTxEmpty hd <;> simp_arith

theorem runCalls_pioTxPushes_probed :
    let cs := [DaiCall.daiProbe, .trigger sndrvPcmStreamPlayback SndrvPcmTrigger.start,
      .irq 0x10, .irq 0x01, .irq 0x10]
    let i2s' := (runCalls sampleHeader exactClk sampleProbed cs).getD sampleProbed
    runCalls sampleHeader exactClk sampleProbed cs = some i2s' ∧
      i2s'.pioTxPushes = sampleProbed.pioTxPushes +
        if sampleProbed.usePio then cs.countP (DaiCall.isTxEmpty sampleHeader) else 0 := by
  intro cs i2s'
  have hrun : runCalls sampleHeader exactClk sampleProbed cs = some i2s' := by rfl
  exact ⟨hrun, runCalls_pioTxPushes hrun⟩

/--
Within a stretch of calls none of which writes `IIS_FICR`, that is without
`csky_i2s_dai_probe` and without another interrupt, it does not matter between which two calls
an interrupt is handled: the run is undefined in both orders or leaves the same state.
-/
theorem runCalls_irq_reorder {hd : CskyI2sHeader} {clk : ClkOps} {i2s : CskyI2s}
    {cs₁ cs₂ cs₃ : List DaiCall} {val : UInt32} (h : ∀ c ∈ cs₂, IisReg.ficr ∉ c.writes) :
    runCalls hd clk i2s (cs₁ ++ DaiCall.irq val :: cs₂ ++ cs₃) =
      runCalls hd clk i2s (cs₁ ++ cs₂ ++ DaiCall.irq val :: cs₃) := by
  have hl : cs₁ ++ DaiCall.irq val :: cs₂ ++ cs₃ =
      cs₁ ++ ((DaiCall.irq val :: cs₂) ++ cs₃) := List.append_assoc ..
  have hr : cs₁ ++ cs₂ ++ DaiCall.irq val :: cs₃ =
      cs₁ ++ ((cs₂ ++ [DaiCall.irq val]) ++ cs₃) := by simp
  rw [hl, hr, runCalls_append, runCalls_append]
  congr 1
  funext i2s'
  rw [runCalls_append, runCalls_append, runCalls_irq_cons h]

theorem runCalls_irq_reorder_start :
    let cs₂ := [DaiCall.hwParams ⟨2, 16, 48000, 16⟩,
      .trigger sndrvPcmStreamPlayback SndrvPcmTrigger.start]
    (∀ c ∈ cs₂, IisReg.ficr ∉ c.writes) ∧
      runCalls sampleHeader exactClk sampleProbed
          ([.daiProbe] ++ DaiCall.irq 0x10 :: cs₂ ++ []) =
        runCalls sampleHeader exactClk sampleProbed
          ([.daiProbe] ++ cs₂ ++ DaiCall.irq 0x10 :: []) := by
  intro cs₂
  have h : ∀ c ∈ cs₂, IisReg.ficr ∉ c.writes := by decide
  exact ⟨h, @runCalls_irq_reorder sampleHeader exactClk sampleProbed [.daiProbe] cs₂ [] 0x10 h⟩

end CskySound.Lifecycle
