import CskySound.Driver.ClkRate

/-!
# The DAI callbacks

`csky_i2s_dai_ops`, `csky_i2s_dai_probe` with `csky_i2s_init`, and `csky_i2s_irq_handler`, in C
semantics.  Each returns what the C function returns together with the updated structure.
The kernel is built without `CONFIG_CSKY_HDMI`, so `csky_i2s_start_playback` makes no HDMI
call.  `csky_pcm_pio_push_tx` lives in the PIO PCM driver, outside the repository: it feeds
the transmit FIFO through `IIS_DR` from its own stream state, and the model counts its calls.
-/

namespace CskySound.Driver

open Foundation

section

variable (hd : CskyI2sHeader)

/-! ## `csky_i2s_set_fmt` -/

def audfmtOf (format : UInt32) : Option UInt32 :=
  if format = SndSocDaifmt.i2s then some hd.iiscnfOut.iiscnfOutAudfmtI2s
  else if format = SndSocDaifmt.leftJ then some hd.iiscnfOut.iiscnfOutAudfmtLeftJ
  else if format = SndSocDaifmt.rightJ then some hd.iiscnfOut.iiscnfOutAudfmtRightJ
  else none

def wsPolarityOf (inv : UInt32) : Option UInt32 :=
  if inv = SndSocDaifmt.nbNf then some hd.iiscnfOut.iiscnfOutWsPolarityNormal
  else if inv = SndSocDaifmt.nbIf then some hd.iiscnfOut.iiscnfOutWsPolarityInverted
  else none

def masterSlaveOf (master : UInt32) : Option UInt32 :=
  if master = SndSocDaifmt.cbsCfs then some hd.iiscnfOut.iiscnfOutMaster
  else if master = SndSocDaifmt.cbmCfm then some hd.iiscnfOut.iiscnfOutSlave
  else none

def iiscnfOutCleared (val : UInt32) : UInt32 :=
  val &&& ~~~(hd.iiscnfOut.outAudfmtMask <<< hd.iiscnfOut.outAudfmtShift) &&&
    ~~~(hd.iiscnfOut.outWsPolarityMask <<< hd.iiscnfOut.outWsPolarityShift) &&& ~~~(hd.iiscnfOut.outMSMask <<< hd.iiscnfOut.outMSShift)

def cskyI2sSetFmt (i2s : CskyI2s) (fmt : UInt32) : Int × CskyI2s :=
  let val := iiscnfOutCleared hd (i2s.readl .iiscnfOut)
  match audfmtOf hd (fmt &&& SndSocDaifmt.formatMask),
      wsPolarityOf hd (fmt &&& SndSocDaifmt.invMask),
      masterSlaveOf hd (fmt &&& SndSocDaifmt.masterMask) with
  | some audfmt, some polarity, some ms =>
    let i2s := i2s.writel .iiscnfOut (val ||| audfmt ||| polarity ||| ms)
    (0, { i2s with audioFmt := fmt &&& SndSocDaifmt.formatMask })
  | _, _, _ => (-einval, i2s)

/-! ## `csky_i2s_dai_probe` -/

def cskyI2sInit (i2s : CskyI2s) : CskyI2s :=
  i2s.writel .audioen 0
    |>.writel .ficr hd.iisFifointAll
    |>.writel .cmir hd.iisModeintAll
    |>.writel .fssta (hd.fsstaRateSetByUser ||| hd.fsstaRes16Fifo16)
    |>.writel .fadtlr (hd.fadtlr48ftr 0x40 ||| hd.fadtlr44ftr 0x46 |||
      hd.fadtlr32ftr 0x60 ||| hd.fadtlr96ftr 0x20)
    |>.writel .imr 0
    |>.writel .rxftlr i2s.intrRxThreshold
    |>.writel .txftlr (if i2s.usePio then i2s.intrTxThreshold else 0)
    |>.writel .dmardlr i2s.dmaRxThreshold
    |>.writel .dmatdlr i2s.dmaTxThreshold
    |>.writel .mimr 0
    |>.writel .sccr 0
    |>.writel .funcmode (hd.funcmodeModeWen ||| hd.funcmodeModeTx)
    |>.writel .iiscnfOut
      (hd.iiscnfOut.iiscnfOutAudfmtI2s ||| hd.iiscnfOut.iiscnfOutWsPolarityNormal ||| hd.iiscnfOut.iiscnfOutMaster)

def cskyI2sDaiProbe (i2s : CskyI2s) : Int × CskyI2s := (0, cskyI2sInit hd i2s)

/-! ## `csky_i2s_hw_params` and `csky_i2s_set_dai_sysclk` -/

/--
What `csky_i2s_hw_params` reads of `params`: `params_channels` and `params_rate` are
`unsigned int`, `params_physical_width` and `params_width` are `int`.
-/
structure SndPcmHwParams where
  channels : UInt32
  physicalWidth : Int
  rate : UInt32
  width : Int
  deriving DecidableEq, Repr

def physicalWidthConfig (params : SndPcmHwParams) : Option (UInt32 × UInt32) :=
  if params.physicalWidth = 16 then
    some (if params.channels = 2 then dmaSlaveBuswidth4Bytes else dmaSlaveBuswidth2Bytes,
      hd.fsstaRes16Fifo16)
  else if params.physicalWidth = 24 then some (dmaSlaveBuswidth3Bytes, hd.fsstaRes24Fifo24)
  else if params.physicalWidth = 32 then some (dmaSlaveBuswidth4Bytes, hd.fsstaRes24Fifo24)
  else none

def cskyI2sHwParams (clk : ClkOps) (i2s : CskyI2s) (params : SndPcmHwParams) :
    Option (Int × CskyI2s) :=
  if params.channels > 2 then some (-einval, i2s) else
  let val := i2s.readl .fssta &&& ~~~(hd.fsstaResMask <<< hd.fsstaResShift)
  match physicalWidthConfig hd params with
  | none => some (-einval, i2s)
  | some (width, res) =>
    let i2s := { i2s with playbackDmaData := { i2s.playbackDmaData with addrWidth := width } }
    let i2s := i2s.writel .fssta (val ||| res)
    cskyI2sSetClkRate clk i2s params.rate (ofInt params.width)

def cskyI2sSetDaiSysclk (i2s : CskyI2s) (_clkId : Int) (freq : UInt32) (_dir : Int) :
    Int × CskyI2s :=
  (0, { i2s with mclk := freq })

/-! ## `csky_i2s_trigger` -/

def cskyI2sStartPlayback (i2s : CskyI2s) : CskyI2s :=
  let i2s := if i2s.usePio then i2s.writel .imr hd.iisFifointTxFifoEmpty
    else i2s.writel .dmacr hd.dmacrEnTxDma
  i2s.writel .audioen hd.audioenIisEn

def cskyI2sStopPlayback (i2s : CskyI2s) : CskyI2s :=
  ((i2s.writel .imr 0).writel .dmacr 0).writel .audioen 0

def cskyI2sTrigger (i2s : CskyI2s) (stream cmd : Int) : Int × CskyI2s :=
  if cmd = SndrvPcmTrigger.start ∨ cmd = SndrvPcmTrigger.pauseRelease ∨
      cmd = SndrvPcmTrigger.resume then
    if stream = sndrvPcmStreamPlayback then (0, cskyI2sStartPlayback hd i2s) else (-einval, i2s)
  else if cmd = SndrvPcmTrigger.stop ∨ cmd = SndrvPcmTrigger.pausePush ∨
      cmd = SndrvPcmTrigger.suspend then
    if stream = sndrvPcmStreamPlayback then (0, cskyI2sStopPlayback i2s) else (-einval, i2s)
  else (-einval, i2s)

/-! ## `csky_i2s_irq_handler` -/

def cskyPcmPioPushTx (i2s : CskyI2s) : CskyI2s := { i2s with pioTxPushes := i2s.pioTxPushes + 1 }

/--
`val` is what `csky_i2s_readl(i2s, IIS_ISR)` returns: the status the controller reports when it
raises the line, an input of the handler like the arguments of a callback.
-/
def cskyI2sIrqHandler (i2s : CskyI2s) (val : UInt32) : Int × CskyI2s :=
  let i2s := i2s.writel .ficr val
  if val &&& hd.iisFifointTxFifoEmpty ≠ 0 then
    if i2s.usePio then
      let i2s := cskyPcmPioPushTx i2s
      (irqHandled, i2s.writel .ficr val)
    else (irqHandled, i2s)
  else (irqHandled, i2s)

def txPushes (usePio : Bool) (val : UInt32) : Nat :=
  if usePio ∧ val &&& hd.iisFifointTxFifoEmpty ≠ 0 then 1 else 0

def CskyI2s.irqEffect (i2s : CskyI2s) (reg : IisReg) (val : UInt32) (n : Nat) : CskyI2s :=
  { i2s.writel reg val with pioTxPushes := i2s.pioTxPushes + n }

@[simp] theorem CskyI2s.irqEffect_usePio (i2s : CskyI2s) (reg : IisReg) (v : UInt32) (n : Nat) :
    (i2s.irqEffect reg v n).usePio = i2s.usePio := rfl

theorem CskyI2s.irqEffect_regs_of_ne (i2s : CskyI2s) {reg reg' : IisReg} (v : UInt32) (n : Nat)
    (h : reg' ≠ reg) : (i2s.irqEffect reg v n).regs reg' = i2s.regs reg' :=
  CskyI2s.writel_regs_of_ne _ _ h

theorem CskyI2s.irqEffect_writel (i2s : CskyI2s) {reg reg' : IisReg} (h : reg ≠ reg')
    (v v' : UInt32) (n : Nat) :
    (i2s.irqEffect reg v n).writel reg' v' = (i2s.writel reg' v').irqEffect reg v n := by
  show { (i2s.writel reg v).writel reg' v' with pioTxPushes := i2s.pioTxPushes + n } = _
  rw [CskyI2s.writel_comm _ h]
  rfl

theorem CskyI2s.irqEffect_comm (i2s : CskyI2s) {reg reg' : IisReg} (h : reg ≠ reg')
    (v v' : UInt32) (n n' : Nat) :
    (i2s.irqEffect reg v n).irqEffect reg' v' n' =
      (i2s.irqEffect reg' v' n').irqEffect reg v n := by
  show { (i2s.writel reg v).writel reg' v' with pioTxPushes := i2s.pioTxPushes + n + n' } = _
  rw [CskyI2s.writel_comm _ h, Nat.add_right_comm]
  rfl

/-! ## What each callback changes -/

theorem cskyI2sSetFmt_cases (i2s : CskyI2s) (fmt : UInt32) :
    (∃ audfmt polarity ms, audfmtOf hd (fmt &&& SndSocDaifmt.formatMask) = some audfmt ∧
      wsPolarityOf hd (fmt &&& SndSocDaifmt.invMask) = some polarity ∧
      masterSlaveOf hd (fmt &&& SndSocDaifmt.masterMask) = some ms ∧
      cskyI2sSetFmt hd i2s fmt = (0, { i2s.writel .iiscnfOut
        (iiscnfOutCleared hd (i2s.regs .iiscnfOut) ||| audfmt ||| polarity ||| ms) with
          audioFmt := fmt &&& SndSocDaifmt.formatMask })) ∨
    cskyI2sSetFmt hd i2s fmt = (-einval, i2s) := by
  unfold cskyI2sSetFmt
  split
  · exact .inl ⟨_, _, _, ‹_›, ‹_›, ‹_›, rfl⟩
  · exact .inr rfl

theorem audfmtOf_and_field {format audfmt : UInt32} (h : audfmtOf hd format = some audfmt) :
    audfmt &&& hd.iiscnfOut.outAudfmtMask <<< hd.iiscnfOut.outAudfmtShift = audfmt := by
  unfold audfmtOf at h
  split_ifs at h <;> cases h
  · exact hd.iiscnfOut.audfmtI2s_mem
  · exact hd.iiscnfOut.audfmtLeftJ_mem
  · exact hd.iiscnfOut.audfmtRightJ_mem

theorem wsPolarityOf_and_field {inv polarity : UInt32} (h : wsPolarityOf hd inv = some polarity) :
    polarity &&& hd.iiscnfOut.outAudfmtMask <<< hd.iiscnfOut.outAudfmtShift = 0 := by
  unfold wsPolarityOf at h
  split_ifs at h <;> cases h
  · exact hd.iiscnfOut.wsPolarityNormal_disjoint
  · exact hd.iiscnfOut.wsPolarityInverted_disjoint

theorem masterSlaveOf_and_field {master ms : UInt32} (h : masterSlaveOf hd master = some ms) :
    ms &&& hd.iiscnfOut.outAudfmtMask <<< hd.iiscnfOut.outAudfmtShift = 0 := by
  unfold masterSlaveOf at h
  split_ifs at h <;> cases h
  · exact hd.iiscnfOut.master_disjoint
  · exact hd.iiscnfOut.slave_disjoint

@[simp] theorem cskyI2sInit_audioFmt (i2s : CskyI2s) :
    (cskyI2sInit hd i2s).audioFmt = i2s.audioFmt := by
  simp only [cskyI2sInit, CskyI2s.writel_audioFmt]

theorem cskyI2sInit_eq (i2s : CskyI2s) :
    cskyI2sInit hd i2s = { i2s with regs := (cskyI2sInit hd i2s).regs } := by
  simp only [cskyI2sInit, CskyI2s.writel]

@[simp] theorem cskyI2sInit_iiscnfOut (i2s : CskyI2s) :
    (cskyI2sInit hd i2s).regs .iiscnfOut =
      hd.iiscnfOut.iiscnfOutAudfmtI2s ||| hd.iiscnfOut.iiscnfOutWsPolarityNormal ||| hd.iiscnfOut.iiscnfOutMaster :=
  CskyI2s.writel_regs_self ..

theorem cskyI2sTrigger_frame (i2s : CskyI2s) (stream cmd : Int) :
    (cskyI2sTrigger hd i2s stream cmd).2.audioFmt = i2s.audioFmt ∧
      (cskyI2sTrigger hd i2s stream cmd).2.regs .iiscnfOut = i2s.regs .iiscnfOut := by
  unfold cskyI2sTrigger cskyI2sStartPlayback cskyI2sStopPlayback
  split_ifs <;> simp

theorem physicalWidthConfig_res {params : SndPcmHwParams} {width res : UInt32}
    (h : physicalWidthConfig hd params = some (width, res)) :
    res &&& hd.fsstaResMask <<< hd.fsstaResShift = res := by
  unfold physicalWidthConfig at h
  split_ifs at h <;> cases h <;> first | exact hd.res16Fifo16_mem | exact hd.res24Fifo24_mem

theorem cskyI2sSetFmt_frame (i2s : CskyI2s) (fmt : UInt32) :
    (cskyI2sSetFmt hd i2s fmt).2.usePio = i2s.usePio ∧
      ∀ reg ≠ .iiscnfOut, (cskyI2sSetFmt hd i2s fmt).2.regs reg = i2s.regs reg := by
  rcases cskyI2sSetFmt_cases hd i2s fmt with ⟨_, _, _, _, _, _, h⟩ | h <;> rw [h]
  · exact ⟨rfl, fun _ hr => CskyI2s.writel_regs_of_ne _ _ hr⟩
  · exact ⟨rfl, fun _ _ => rfl⟩

theorem cskyI2sIrqHandler_eq (i2s : CskyI2s) (val : UInt32) :
    cskyI2sIrqHandler hd i2s val =
      (irqHandled, i2s.irqEffect .ficr val (txPushes hd i2s.usePio val)) := by
  unfold cskyI2sIrqHandler txPushes
  by_cases hv : val &&& hd.iisFifointTxFifoEmpty ≠ 0 <;> cases hp : i2s.usePio <;>
    simp [hv, hp, CskyI2s.irqEffect, cskyPcmPioPushTx, CskyI2s.writel]

theorem cskyI2sIrqHandler_frame (i2s : CskyI2s) (val : UInt32) :
    (cskyI2sIrqHandler hd i2s val).2.audioFmt = i2s.audioFmt ∧
      (cskyI2sIrqHandler hd i2s val).2.usePio = i2s.usePio ∧
      ∀ reg ≠ .ficr, (cskyI2sIrqHandler hd i2s val).2.regs reg = i2s.regs reg := by
  rw [cskyI2sIrqHandler_eq]
  exact ⟨rfl, rfl, fun _ hr => CskyI2s.writel_regs_of_ne _ _ hr⟩

end

def cskyI2sStartup (_i2s : CskyI2s) : Int := 0

def cskyI2sShutdown (i2s : CskyI2s) : CskyI2s := i2s

/-! ## `csky_i2s_dai` -/

structure SndSocPcmStream where
  channelsMin : UInt32
  channelsMax : UInt32
  rates : UInt32
  formats : UInt64

/--
Parameters the PCM core lets through to `hw_params` on a stream: a channel count in range, one
of its rates, and the widths of one of its formats.
-/
def SndSocPcmStream.Admits (stream : SndSocPcmStream) (params : SndPcmHwParams) : Prop :=
  stream.channelsMin ≤ params.channels ∧ params.channels ≤ stream.channelsMax ∧
    params.rate ∈ sndPcmRatesOf stream.rates ∧
    (params.width, params.physicalWidth) ∈ sndPcmFormatsOf stream.formats

instance (stream : SndSocPcmStream) (params : SndPcmHwParams) : Decidable (stream.Admits params) :=
  inferInstanceAs (Decidable (_ ∧ _))

structure SndSocDaiDriver where
  playback : SndSocPcmStream

def cskyI2sDai : SndSocDaiDriver where
  playback :=
    { channelsMin := 1
      channelsMax := 2
      rates := sndrvPcmRate8000_48000 ||| sndrvPcmRate88200 ||| sndrvPcmRate96000
      formats := sndrvPcmFmtbit sndrvPcmFormatS16Le ||| sndrvPcmFmtbit sndrvPcmFormatU16Le |||
        sndrvPcmFmtbit sndrvPcmFormatS24Le ||| sndrvPcmFmtbit sndrvPcmFormatU24Le }

theorem sndPcmRatesOf_cskyI2sDai :
    sndPcmRatesOf cskyI2sDai.playback.rates =
      [8000, 11025, 16000, 22050, 32000, 44100, 48000, 88200, 96000] := by
  decide

theorem sndPcmFormatsOf_cskyI2sDai :
    sndPcmFormatsOf cskyI2sDai.playback.formats = [(16, 16), (16, 16), (24, 32), (24, 32)] := by
  decide

end CskySound.Driver
