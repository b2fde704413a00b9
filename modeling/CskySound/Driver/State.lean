import CskySound.Foundation.CInt
import CskySound.Foundation.Kernel
import Mathlib.Logic.Function.Basic

/-!
# Driver state

`struct csky_i2s` as far as the modelled functions read or write it, the controller's
registers, and the kernel log that `dev_err` appends to.  The register offsets and bit-field
constants live in `csky-i2s.h`, which the repository does not contain: registers are named
rather than addressed, and the constants are a parameter `CskyI2sHeader` whose `IIS_IISCNF_OUT`
part carries the only facts about them the proofs use, the layout of that register's fields.
-/

namespace CskySound.Driver

open Foundation

/--
The registers the driver writes.  `IIS_ISR`, which the interrupt handler reads, holds the status
the controller reports; its value is an input of the handler.
-/
inductive IisReg
  | audioen | funcmode | fssta | iiscnfOut | fadtlr | sccr | txftlr | rxftlr
  | imr | ficr | cmir | mimr | dmacr | dmatdlr | dmardlr
  | div0Level | div1Level | div2Level | div3Level | div4Level
  deriving DecidableEq, Repr

/--
The `IIS_IISCNF_OUT` constants of `csky-i2s.h`: the masks and shifts of its three fields and the
codes written into them.  The three audio-format codes lie in the `AUDFMT` field and are
distinct; the polarity and master codes lie outside it.
-/
structure IiscnfOutBits where
  outAudfmtMask : UInt32
  outAudfmtShift : UInt32
  outWsPolarityMask : UInt32
  outWsPolarityShift : UInt32
  outMSMask : UInt32
  outMSShift : UInt32
  iiscnfOutAudfmtI2s : UInt32
  iiscnfOutAudfmtLeftJ : UInt32
  iiscnfOutAudfmtRightJ : UInt32
  iiscnfOutWsPolarityNormal : UInt32
  iiscnfOutWsPolarityInverted : UInt32
  iiscnfOutMaster : UInt32
  iiscnfOutSlave : UInt32
  audfmtI2s_mem : iiscnfOutAudfmtI2s &&& outAudfmtMask <<< outAudfmtShift = iiscnfOutAudfmtI2s
  audfmtLeftJ_mem :
    iiscnfOutAudfmtLeftJ &&& outAudfmtMask <<< outAudfmtShift = iiscnfOutAudfmtLeftJ
  audfmtRightJ_mem :
    iiscnfOutAudfmtRightJ &&& outAudfmtMask <<< outAudfmtShift = iiscnfOutAudfmtRightJ
  wsPolarityNormal_disjoint : iiscnfOutWsPolarityNormal &&& outAudfmtMask <<< outAudfmtShift = 0
  wsPolarityInverted_disjoint :
    iiscnfOutWsPolarityInverted &&& outAudfmtMask <<< outAudfmtShift = 0
  master_disjoint : iiscnfOutMaster &&& outAudfmtMask <<< outAudfmtShift = 0
  slave_disjoint : iiscnfOutSlave &&& outAudfmtMask <<< outAudfmtShift = 0
  audfmtI2s_ne_leftJ : iiscnfOutAudfmtI2s ≠ iiscnfOutAudfmtLeftJ
  audfmtI2s_ne_rightJ : iiscnfOutAudfmtI2s ≠ iiscnfOutAudfmtRightJ
  audfmtLeftJ_ne_rightJ : iiscnfOutAudfmtLeftJ ≠ iiscnfOutAudfmtRightJ

/--
The constants of `csky-i2s.h` that the modelled functions use.  The two resolution codes lie
in the `RES` field of `IIS_FSSTA`.
-/
structure CskyI2sHeader where
  iisDr : UInt32
  audioenIisEn : UInt32
  funcmodeModeWen : UInt32
  funcmodeModeTx : UInt32
  fsstaRateSetByUser : UInt32
  fsstaResMask : UInt32
  fsstaResShift : UInt32
  fsstaRes16Fifo16 : UInt32
  fsstaRes24Fifo24 : UInt32
  fadtlr48ftr : UInt32 → UInt32
  fadtlr44ftr : UInt32 → UInt32
  fadtlr32ftr : UInt32 → UInt32
  fadtlr96ftr : UInt32 → UInt32
  iisFifointAll : UInt32
  iisFifointTxFifoEmpty : UInt32
  iisModeintAll : UInt32
  dmacrEnTxDma : UInt32
  iiscnfOut : IiscnfOutBits
  res16Fifo16_mem : fsstaRes16Fifo16 &&& fsstaResMask <<< fsstaResShift = fsstaRes16Fifo16
  res24Fifo24_mem : fsstaRes24Fifo24 &&& fsstaResMask <<< fsstaResShift = fsstaRes24Fifo24

/--
A layout that meets every fact `IiscnfOutBits` asks for, two bits of `AUDFMT` at bit 0, the
polarity at bit 2 and master or slave at bit 3, so that results over an arbitrary header are not
vacuous.  The values are illustrative: `csky-i2s.h` is not among the sources.
-/
def sampleIiscnfOut : IiscnfOutBits where
  outAudfmtMask := 0x3
  outAudfmtShift := 0
  outWsPolarityMask := 0x1
  outWsPolarityShift := 2
  outMSMask := 0x1
  outMSShift := 3
  iiscnfOutAudfmtI2s := 0
  iiscnfOutAudfmtLeftJ := 1
  iiscnfOutAudfmtRightJ := 2
  iiscnfOutWsPolarityNormal := 0
  iiscnfOutWsPolarityInverted := 0x4
  iiscnfOutMaster := 0
  iiscnfOutSlave := 0x8
  audfmtI2s_mem := by decide
  audfmtLeftJ_mem := by decide
  audfmtRightJ_mem := by decide
  wsPolarityNormal_disjoint := by decide
  wsPolarityInverted_disjoint := by decide
  master_disjoint := by decide
  slave_disjoint := by decide
  audfmtI2s_ne_leftJ := by decide
  audfmtI2s_ne_rightJ := by decide
  audfmtLeftJ_ne_rightJ := by decide

def sampleHeader : CskyI2sHeader where
  iisDr := 0x60
  audioenIisEn := 0x1
  funcmodeModeWen := 0x2
  funcmodeModeTx := 0x1
  fsstaRateSetByUser := 0x40
  fsstaResMask := 0x3
  fsstaResShift := 4
  fsstaRes16Fifo16 := 0x10
  fsstaRes24Fifo24 := 0x20
  fadtlr48ftr := fun v => v
  fadtlr44ftr := fun v => v <<< 8
  fadtlr32ftr := fun v => v <<< 16
  fadtlr96ftr := fun v => v <<< 24
  iisFifointAll := 0x3f
  iisFifointTxFifoEmpty := 0x10
  iisModeintAll := 0x7
  dmacrEnTxDma := 0x2
  iiscnfOut := sampleIiscnfOut
  res16Fifo16_mem := by decide
  res24Fifo24_mem := by decide

structure CskyI2sParams where
  hasMclkSclkDiv : Bool
  deriving DecidableEq, Repr

def paramsCskyI2sV1 : CskyI2sParams := ⟨false⟩

def paramsCskyI2sV1_1 : CskyI2sParams := ⟨true⟩

structure SndDmaengineDaiDmaData where
  addr : UInt32
  addrWidth : UInt32
  maxburst : UInt32
  deriving DecidableEq, Repr

inductive DrvClk
  | audio
  | gate
  deriving DecidableEq, Repr

/--
`i2sClk` and `i2sClkGate` stand for `!IS_ERR_OR_NULL(i2s->i2s_clk)` and
`!IS_ERR_OR_NULL(i2s->i2s_clk_gate)`.  Like `log`, the last two fields are kept outside the
driver.  `clkEnables` counts, per clock, the `clk_prepare_enable` calls that succeeded less the
`clk_disable_unprepare` calls the driver made.  `pioTxPushes` counts the calls of
`csky_pcm_pio_push_tx`, the PIO PCM routine (not among the sources) that refills the transmit
FIFO.
-/
structure CskyI2s where
  params : CskyI2sParams
  regs : IisReg → UInt32
  i2sClk : Bool
  i2sClkGate : Bool
  srcClk : UInt32
  clkFs44k : UInt32
  clkFs48k : UInt32
  mclk : UInt32
  sampleRate : UInt32
  sclkFsDivider : UInt32
  mclkFsDivider : UInt32
  audioFmt : UInt32
  usePio : Bool
  configHdmi : Bool
  fifoDepth : UInt32
  intrTxThreshold : UInt32
  intrRxThreshold : UInt32
  dmaTxThreshold : UInt32
  dmaRxThreshold : UInt32
  playbackDmaData : SndDmaengineDaiDmaData
  log : List String
  clkEnables : DrvClk → Int
  pioTxPushes : Nat

namespace CskyI2s

def kzalloc (regs : IisReg → UInt32) : CskyI2s where
  params := ⟨false⟩
  regs := regs
  i2sClk := false
  i2sClkGate := false
  srcClk := 0
  clkFs44k := 0
  clkFs48k := 0
  mclk := 0
  sampleRate := 0
  sclkFsDivider := 0
  mclkFsDivider := 0
  audioFmt := 0
  usePio := false
  configHdmi := false
  fifoDepth := 0
  intrTxThreshold := 0
  intrRxThreshold := 0
  dmaTxThreshold := 0
  dmaRxThreshold := 0
  playbackDmaData := ⟨0, 0, 0⟩
  log := []
  clkEnables := fun _ => 0
  pioTxPushes := 0

def readl (i2s : CskyI2s) (reg : IisReg) : UInt32 := i2s.regs reg

def writel (i2s : CskyI2s) (reg : IisReg) (val : UInt32) : CskyI2s :=
  { i2s with regs := Function.update i2s.regs reg val }

/-- A line of the kernel log; the log level is not recorded. -/
def devPrintk (i2s : CskyI2s) (msg : String) : CskyI2s := { i2s with log := i2s.log ++ [msg] }

def devErr (i2s : CskyI2s) (msg : String) : CskyI2s := i2s.devPrintk msg

def devInfo (i2s : CskyI2s) (msg : String) : CskyI2s := i2s.devPrintk msg

@[simp] theorem readl_eq (i2s : CskyI2s) (reg : IisReg) : i2s.readl reg = i2s.regs reg := rfl

@[simp] theorem writel_audioFmt (i2s : CskyI2s) (reg : IisReg) (val : UInt32) :
    (i2s.writel reg val).audioFmt = i2s.audioFmt := rfl

@[simp] theorem writel_usePio (i2s : CskyI2s) (reg : IisReg) (val : UInt32) :
    (i2s.writel reg val).usePio = i2s.usePio := rfl

@[simp] theorem writel_regs_self (i2s : CskyI2s) (reg : IisReg) (val : UInt32) :
    (i2s.writel reg val).regs reg = val := Function.update_same _ _ _

@[simp] theorem writel_regs_of_ne (i2s : CskyI2s) {reg reg' : IisReg} (val : UInt32)
    (h : reg' ≠ reg) : (i2s.writel reg val).regs reg' = i2s.regs reg' :=
  Function.update_noteq h _ _

@[simp] theorem writel_params (i2s : CskyI2s) (reg : IisReg) (val : UInt32) :
    (i2s.writel reg val).params = i2s.params := rfl

@[simp] theorem writel_writel (i2s : CskyI2s) (reg : IisReg) (val val' : UInt32) :
    (i2s.writel reg val).writel reg val' = i2s.writel reg val' := by
  simp only [writel, Function.update_idem]

theorem writel_comm (i2s : CskyI2s) {reg reg' : IisReg} (h : reg ≠ reg') (val val' : UInt32) :
    (i2s.writel reg val).writel reg' val' = (i2s.writel reg' val').writel reg val := by
  simp only [writel, Function.update_comm h]

end CskyI2s

end CskySound.Driver
