import CskySound.Driver.State

/-!
# `csky_i2s_probe` and `csky_i2s_remove`

The platform driver's probe, over what it obtains from the platform device, its device-tree
node and the clock framework.  A failed probe returns its errno with the kernel log written so
far and the enables left on the two clocks; the structure itself is freed with the device.
Failures after the `audio` clock is enabled go through `err_clk`, which gives back each clock
whose handle the driver holds; `csky_i2s_remove` does the same.  The registration of the
component and PCM is outside the modelled state; only its results are read.
-/

namespace CskySound.Driver

open Foundation

/-- What `csky_i2s_probe` asks of the platform device, its node and the clock framework. -/
structure PlatformDevice where
  /-- `devm_kzalloc` of the structure succeeds. -/
  kzallocOk : Bool
  /-- `match->data` of `of_match_device(csky_i2s_match, ...)`, if any. -/
  matchData : Option CskyI2sParams
  /-- `devm_ioremap_resource`: the controller's registers, or `PTR_ERR`. -/
  ioremap : Except Int (IisReg → UInt32)
  /-- `res->start`. -/
  resStart : UInt32
  /-- `platform_get_irq`. -/
  irq : Int
  /-- `devm_request_irq`. -/
  requestIrq : Int
  /-- `of_property_read_u32`: the value, or `none` when it returns an error. -/
  propertyU32 : String → Option UInt32
  /-- `of_find_property` and `of_property_read_bool`. -/
  hasProperty : String → Bool
  /-- `devm_clk_get` followed by `clk_get_rate`: the clock's rate, or `PTR_ERR`. -/
  clkGet : String → Except Int UInt32
  /-- `clk_prepare_enable`. -/
  clkPrepareEnable : String → Int
  /-- `devm_snd_soc_register_component`. -/
  registerComponent : Int
  /-- `devm_kzalloc` of `pcm_conf` succeeds. -/
  pcmConfOk : Bool
  /-- `csky_pcm_pio_register`. -/
  pcmPioRegister : Int
  /-- `csky_snd_dmaengine_pcm_register`. -/
  dmaenginePcmRegister : Int

def defaultFifoDepth : UInt32 := 32

def defaultIntrTxThreshold : UInt32 := 16

def defaultIntrRxThreshold : UInt32 := 16

def defaultDmaTxThreshold : UInt32 := 16

def defaultDmaRxThreshold : UInt32 := 16

structure ProbeError where
  ret : Int
  log : List String
  clkEnables : DrvClk → Int

/-- `clk_prepare_enable`: a call that returns `0` takes one enable on the clock. -/
def clkPrepareEnable (i2s : CskyI2s) (c : DrvClk) (ret : Int) : CskyI2s :=
  if ret = 0 then { i2s with clkEnables := Function.update i2s.clkEnables c (i2s.clkEnables c + 1) }
  else i2s

def clkDisableUnprepare (i2s : CskyI2s) (c : DrvClk) : CskyI2s :=
  { i2s with clkEnables := Function.update i2s.clkEnables c (i2s.clkEnables c - 1) }

/--
The two calls at `err_clk`, which `csky_i2s_remove` makes as well: each clock whose handle is
neither `NULL` nor an error is disabled.  On `NULL`, `clk_disable_unprepare` does nothing.
-/
def errClk (i2s : CskyI2s) : CskyI2s :=
  let i2s := if i2s.i2sClk then clkDisableUnprepare i2s .audio else i2s
  if i2s.i2sClkGate then clkDisableUnprepare i2s .gate else i2s

def probeFail (i2s : CskyI2s) (ret : Int) (msg : String) : Except ProbeError CskyI2s :=
  .error ⟨ret, (i2s.devErr msg).log, i2s.clkEnables⟩

def probeFailErrClk (i2s : CskyI2s) (ret : Int) (msg : String) : Except ProbeError CskyI2s :=
  probeFail (errClk i2s) ret msg

def probeClocks (pdev : PlatformDevice) (i2s : CskyI2s) : Except ProbeError CskyI2s :=
  match pdev.clkGet "audio" with
  | .error ret => probeFail i2s ret "Failed to get clk 'audio'\n"
  | .ok rate =>
    let i2s := { i2s with i2sClk := true }
    let ret := pdev.clkPrepareEnable "audio"
    let i2s := clkPrepareEnable i2s .audio ret
    if ret ≠ 0 then probeFail i2s ret "Failed to enable clk 'audio'\n" else
    let i2s := { i2s with srcClk := rate }
    match pdev.clkGet "gate" with
    | .error ret => probeFailErrClk i2s ret "Failed to get clk 'gate'\n"
    | .ok _ =>
      let i2s := { i2s with i2sClkGate := true }
      let ret := pdev.clkPrepareEnable "gate"
      let i2s := clkPrepareEnable i2s .gate ret
      if ret ≠ 0 then probeFailErrClk i2s ret "Failed to enable clk 'gate'\n" else
      match pdev.clkGet "clk-for-fs-44k" with
      | .error ret => probeFailErrClk i2s ret "Failed to get clk 'clk-for-fs-44k'\n"
      | .ok rate44k =>
        let i2s := { i2s with clkFs44k := rate44k }
        match pdev.clkGet "clk-for-fs-48k" with
        | .error ret => probeFailErrClk i2s ret "Failed to get clk 'clk-for-fs-48k'\n"
        | .ok rate48k => .ok { i2s with clkFs48k := rate48k }

def propertyOr (pdev : PlatformDevice) (name : String) (default : UInt32) : UInt32 :=
  (pdev.propertyU32 name).getD default

def probeSettings (hd : CskyI2sHeader) (pdev : PlatformDevice) (i2s : CskyI2s) : CskyI2s :=
  let i2s := if pdev.hasProperty "dmas" then { i2s.devInfo "use dma\n" with usePio := false }
    else { i2s.devInfo "use pio\n" with usePio := true }
  let i2s := { i2s with
    fifoDepth := propertyOr pdev "fifo-depth" defaultFifoDepth
    intrTxThreshold := propertyOr pdev "intr-tx-threshold" defaultIntrTxThreshold
    intrRxThreshold := propertyOr pdev "intr-rx-threshold" defaultIntrRxThreshold
    dmaTxThreshold := propertyOr pdev "dma-tx-threshold" defaultDmaTxThreshold
    dmaRxThreshold := propertyOr pdev "dma-rx-threshold" defaultDmaRxThreshold
    sclkFsDivider := propertyOr pdev "sclk-fs-divider" i2s.sclkFsDivider }
  { i2s with
    playbackDmaData := { i2s.playbackDmaData with
      maxburst := i2s.fifoDepth - i2s.dmaTxThreshold
      addr := pdev.resStart + hd.iisDr }
    audioFmt := SndSocDaifmt.i2s }

def probeRegister (pdev : PlatformDevice) (i2s : CskyI2s) : Except ProbeError CskyI2s :=
  if pdev.registerComponent ≠ 0 then
    probeFailErrClk i2s pdev.registerComponent "Failed to register DAI\n"
  else if !pdev.pcmConfOk then
    probeFailErrClk i2s (-enomem) "Failed to allocate memory for pcm_conf\n"
  else if i2s.usePio ∧ pdev.pcmPioRegister ≠ 0 then
    probeFailErrClk i2s pdev.pcmPioRegister
      ("Could not register PIO PCM: " ++ toString pdev.pcmPioRegister ++ "\n")
  else if !i2s.usePio ∧ pdev.dmaenginePcmRegister ≠ 0 then
    probeFailErrClk i2s pdev.dmaenginePcmRegister "Failed to register PCM\n"
  else .ok { i2s with configHdmi := pdev.hasProperty "config-hdmi" }

def probeStart (pdev : PlatformDevice) : Except ProbeError CskyI2s :=
  if !pdev.kzallocOk then .error ⟨-enomem, [], fun _ => 0⟩ else
  match pdev.ioremap with
  | .error ret => .error ⟨ret, [], fun _ => 0⟩
  | .ok regs =>
    let i2s := { CskyI2s.kzalloc regs with params := pdev.matchData.getD ⟨false⟩ }
    if pdev.irq < 0 then probeFail i2s pdev.irq "Failed to retrieve irq number\n"
    else if pdev.requestIrq < 0 then probeFail i2s pdev.requestIrq "Failed to request irq\n"
    else .ok i2s

def probeSrcClk (pdev : PlatformDevice) (i2s : CskyI2s) : Except ProbeError CskyI2s :=
  match pdev.propertyU32 "clock-frequency" with
  | some src => .ok { i2s with srcClk := src }
  | none => probeClocks pdev i2s

def cskyI2sProbe (hd : CskyI2sHeader) (pdev : PlatformDevice) : Except ProbeError CskyI2s :=
  match probeStart pdev with
  | .error e => .error e
  | .ok i2s =>
    match probeSrcClk pdev i2s with
    | .error e => .error e
    | .ok i2s => probeRegister pdev (probeSettings hd pdev i2s)

/-- `csky_i2s_remove`; the PCM unregistration is outside the modelled state. -/
def cskyI2sRemove (i2s : CskyI2s) : Int × CskyI2s := (0, errClk i2s)

theorem probeFail_ne_ok {i2s i2s' : CskyI2s} {ret : Int} {msg : String} :
    probeFail i2s ret msg ≠ .ok i2s' :=
  nofun

theorem probeRegister_ok {pdev : PlatformDevice} {i2s i2s' : CskyI2s}
    (h : probeRegister pdev i2s = .ok i2s') :
    i2s' = { i2s with configHdmi := pdev.hasProperty "config-hdmi" } := by
  unfold probeRegister at h
  split_ifs at h <;> first | exact absurd h probeFail_ne_ok | exact (Except.ok.inj h).symm

theorem cskyI2sProbe_audioFmt {hd : CskyI2sHeader} {pdev : PlatformDevice} {i2s : CskyI2s}
    (h : cskyI2sProbe hd pdev = .ok i2s) : i2s.audioFmt = SndSocDaifmt.i2s := by
  unfold cskyI2sProbe at h
  rcases hs : probeStart pdev with e | i2s₁ <;> simp only [hs, reduceCtorEq] at h
  rcases hc : probeSrcClk pdev i2s₁ with e | i2s₂ <;> simp only [hc, reduceCtorEq] at h
  rw [probeRegister_ok h]
  rfl

end CskySound.Driver
