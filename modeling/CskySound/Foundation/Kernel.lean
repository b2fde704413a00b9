import Mathlib.Data.Nat.Defs

/-!
# The host kernel's interface

Constants of the kernel headers the driver includes (`errno.h`, `sound/soc-dai.h`,
`sound/pcm.h`, `linux/dmaengine.h`), at their values in the kernels the driver was written
for, and the common clock framework as the driver calls it.
-/

namespace CskySound.Foundation

def einval : Int := 22

def enomem : Int := 12

namespace SndSocDaifmt

def i2s : UInt32 := 1

def rightJ : UInt32 := 2

def leftJ : UInt32 := 3

def formatMask : UInt32 := 0x000f

def nbNf : UInt32 := 0x0000

def nbIf : UInt32 := 0x0200

def ibNf : UInt32 := 0x0300

def ibIf : UInt32 := 0x0400

def invMask : UInt32 := 0x0f00

def cbmCfm : UInt32 := 0x1000

def cbsCfs : UInt32 := 0x4000

def masterMask : UInt32 := 0xf000

end SndSocDaifmt

namespace SndrvPcmTrigger

def stop : Int := 0

def start : Int := 1

def pausePush : Int := 3

def pauseRelease : Int := 4

def suspend : Int := 5

def resume : Int := 6

end SndrvPcmTrigger

def sndrvPcmStreamPlayback : Int := 0

def irqHandled : Int := 1

def dmaSlaveBuswidth2Bytes : UInt32 := 2

def dmaSlaveBuswidth3Bytes : UInt32 := 3

def dmaSlaveBuswidth4Bytes : UInt32 := 4

/-! ## PCM rates and formats -/

/-- `snd_pcm_known_rates`: bit `k` of a `SNDRV_PCM_RATE_*` mask stands for entry `k`. -/
def sndPcmKnownRates : List UInt32 :=
  [5512, 8000, 11025, 16000, 22050, 32000, 44100, 48000, 64000, 88200, 96000, 176400, 192000,
    352800, 384000]

def sndrvPcmRate8000 : UInt32 := (1 : UInt32) <<< 1

def sndrvPcmRate11025 : UInt32 := (1 : UInt32) <<< 2

def sndrvPcmRate16000 : UInt32 := (1 : UInt32) <<< 3

def sndrvPcmRate22050 : UInt32 := (1 : UInt32) <<< 4

def sndrvPcmRate32000 : UInt32 := (1 : UInt32) <<< 5

def sndrvPcmRate44100 : UInt32 := (1 : UInt32) <<< 6

def sndrvPcmRate48000 : UInt32 := (1 : UInt32) <<< 7

def sndrvPcmRate88200 : UInt32 := (1 : UInt32) <<< 9

def sndrvPcmRate96000 : UInt32 := (1 : UInt32) <<< 10

def sndrvPcmRate8000_44100 : UInt32 :=
  sndrvPcmRate8000 ||| sndrvPcmRate11025 ||| sndrvPcmRate16000 ||| sndrvPcmRate22050 |||
    sndrvPcmRate32000 ||| sndrvPcmRate44100

def sndrvPcmRate8000_48000 : UInt32 := sndrvPcmRate8000_44100 ||| sndrvPcmRate48000

/--
The rates a mask without `SNDRV_PCM_RATE_KNOT` or `SNDRV_PCM_RATE_CONTINUOUS` lets through:
the list the PCM core's rate rule builds from `snd_pcm_known_rates`.
-/
def sndPcmRatesOf (mask : UInt32) : List UInt32 :=
  sndPcmKnownRates.enum.filterMap fun (k, rate) =>
    if mask >>> k.toUInt32 &&& 1 = 1 then some rate else none

def sndrvPcmFormatS16Le : Nat := 2

def sndrvPcmFormatU16Le : Nat := 4

def sndrvPcmFormatS24Le : Nat := 6

def sndrvPcmFormatU24Le : Nat := 8

def sndrvPcmFmtbit (format : Nat) : UInt64 := (1 : UInt64) <<< format.toUInt64

def pcmFormatWidths : List (Int × Int) :=
  [(8, 8), (8, 8), (16, 16), (16, 16), (16, 16), (16, 16), (24, 32), (24, 32), (24, 32), (24, 32),
    (32, 32), (32, 32), (32, 32), (32, 32)]

def sndPcmFormatsOf (mask : UInt64) : List (Int × Int) :=
  pcmFormatWidths.enum.filterMap fun (k, widths) =>
    if mask >>> k.toUInt64 &&& 1 = 1 then some widths else none

/--
The `audio` clock as `csky_i2s_set_clk_rate` uses it: `clk_set_rate` returns zero or a
negative errno, and a later `clk_get_rate` reads the rate the clock settled on, which
depends on the rate requested.
-/
structure ClkOps where
  clkSetRate : UInt32 → Int
  clkGetRate : UInt32 → UInt32

end CskySound.Foundation
