import CskySound.Driver.State

/-!
# Clock dividers

`csky_i2s_set_clk_rate` and the five calculators it calls, in C semantics.  Each returns the
`int` the C function returns together with the updated structure; `none` is undefined
behaviour.  The `switch (rate)` that `csky_i2s_set_clk_rate` and `csky_i2s_calc_refclk_div`
both make is `rateFamily`, and the two arms of the first one, which differ only in the clock
they request, are one arm over the family.
-/

namespace CskySound.Driver

open Foundation

inductive RateFamily
  | fs48k
  | fs44k
  deriving DecidableEq, Repr

def rateFamily (rate : UInt32) : Option RateFamily :=
  if rate = 8000 ∨ rate = 16000 ∨ rate = 32000 ∨ rate = 48000 ∨ rate = 96000 then some .fs48k
  else if rate = 11025 ∨ rate = 22050 ∨ rate = 44100 ∨ rate = 88200 then some .fs44k
  else none

def CskyI2s.clkFs (i2s : CskyI2s) : RateFamily → UInt32
  | .fs48k => i2s.clkFs48k
  | .fs44k => i2s.clkFs44k

def refClkOf : RateFamily → UInt32
  | .fs48k => 3072000
  | .fs44k => 2116800

def mclkFsDivError (i2s : CskyI2s) (mclkFsDiv : UInt32) : Option String :=
  if i2s.params.hasMclkSclkDiv then
    if mclkFsDiv ≠ 256 ∧ mclkFsDiv ≠ 384 ∧ mclkFsDiv ≠ 512 ∧ mclkFsDiv ≠ 768 then
      some ("error! invalid mclk_fs_div(" ++ toString (toInt mclkFsDiv) ++ ")\n")
    else none
  else if i2s.audioFmt = SndSocDaifmt.i2s ∨ i2s.audioFmt = SndSocDaifmt.leftJ then
    if mclkFsDiv ≠ 8 * i2s.sclkFsDivider then some "error! mclk != 8*sclk\n" else none
  else if mclkFsDiv ≠ 4 * i2s.sclkFsDivider then some "error! mclk != 4*sclk\n" else none

def cskyI2sCalcMclkDiv (i2s : CskyI2s) (rate _wordSize : UInt32) : Option (Int × CskyI2s) := do
  let mclk := i2s.mclk
  if (← umod mclk rate) ≠ 0 then
    pure (-einval, i2s.devErr "error! mclk is not a multiple of fs\n")
  else
    let mclkFsDiv ← udiv mclk rate
    match mclkFsDivError i2s mclkFsDiv with
    | some msg => pure (-einval, i2s.devErr msg)
    | none =>
      let i2s := { i2s with mclkFsDivider := mclkFsDiv }
      let div := toInt ((← udiv (i2s.srcClk / 2) mclk) - 1)
      if 0 ≤ div then
        let tmp ← udiv i2s.srcClk (ofInt (← imul 2 (← iadd div 1)))
        if tmp ≠ mclk then
          pure (-einval, i2s.devErr ("error! mclk mismatch! Expected " ++
            toString (toInt mclk) ++ ", got " ++ toString (toInt tmp) ++ "\n"))
        else pure (div, i2s)
      else pure (div, i2s)

def cskyI2sCalcSpdifclkDiv (_i2s : CskyI2s) (_rate _wordSize : UInt32) : Int := 17

def cskyI2sCalcFsDiv (i2s : CskyI2s) (_wordSize : UInt32) : Int × CskyI2s :=
  let multi : UInt32 := 64
  (toInt (multi / 2 - 1), { i2s with sclkFsDivider := multi })

def cskyI2sCalcSclkDiv (i2s : CskyI2s) : Option Int := do
  let multi ← udiv i2s.mclkFsDivider i2s.sclkFsDivider
  pure (toInt (multi / 2 - 1))

def cskyI2sCalcRefclkDiv (i2s : CskyI2s) (rate : UInt32) : Option Int :=
  match rateFamily rate with
  | none => pure (-einval)
  | some family => do
    let refClk := refClkOf family
    pure (toInt ((← udiv (i2s.srcClk / 2) refClk) - 1))

/--
The first block of `csky_i2s_set_clk_rate`: with an `audio` clock, request the family's
clock and read `src_clk` back; an error is returned as it is.
-/
def cskyI2sSetSrcClk (clk : ClkOps) (i2s : CskyI2s) (rate : UInt32) : Except Int CskyI2s :=
  if i2s.i2sClk then
    match rateFamily rate with
    | none => .error (-einval)
    | some family =>
      let ret := clk.clkSetRate (i2s.clkFs family)
      if ret ≠ 0 then .error ret
      else .ok { i2s with srcClk := clk.clkGetRate (i2s.clkFs family) }
  else .ok i2s

/-- The rest of `csky_i2s_set_clk_rate`: every divider, then the register writes. -/
def cskyI2sSetClkDividers (i2s : CskyI2s) (rate wordSize : UInt32) :
    Option (Int × CskyI2s) :=
  let i2s := { i2s with sampleRate := rate }
  let (fsDiv, i2s) := cskyI2sCalcFsDiv i2s wordSize
  if fsDiv < 0 then some (-einval, i2s) else do
  let (mclkDiv, i2s) ← cskyI2sCalcMclkDiv i2s rate wordSize
  if mclkDiv < 0 then pure (-einval, i2s) else do
  let sclkDiv ← if i2s.params.hasMclkSclkDiv then (cskyI2sCalcSclkDiv i2s).map some
    else pure none
  if sclkDiv.any (· < 0) then pure (-einval, i2s) else do
  let spdifclkDiv := cskyI2sCalcSpdifclkDiv i2s rate wordSize
  if spdifclkDiv < 0 then pure (-einval, i2s) else do
  let refclkDiv ← cskyI2sCalcRefclkDiv i2s rate
  if refclkDiv < 0 then pure (-einval, i2s) else do
  let i2s := i2s.writel .div0Level (ofInt mclkDiv)
  let i2s := i2s.writel .div1Level (ofInt spdifclkDiv)
  let i2s := i2s.writel .div2Level (ofInt fsDiv)
  let i2s := i2s.writel .div3Level (ofInt refclkDiv)
  let i2s := match sclkDiv with
    | some div => i2s.writel .div4Level (ofInt div)
    | none => i2s
  pure (0, i2s)

def cskyI2sSetClkRate (clk : ClkOps) (i2s : CskyI2s) (rate wordSize : UInt32) :
    Option (Int × CskyI2s) :=
  match cskyI2sSetSrcClk clk i2s rate with
  | .error ret => some (ret, i2s)
  | .ok i2s => cskyI2sSetClkDividers i2s rate wordSize

end CskySound.Driver
