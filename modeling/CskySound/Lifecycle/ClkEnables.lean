import CskySound.Lifecycle.Runs

/-!
# Clock enables over the driver's life

Every enable the driver takes on its clocks has to be given back: by a failed probe before it
returns, and by `csky_i2s_remove` for a bound controller.  `err_clk` and `remove` disable each
clock whose handle the driver holds, so they balance the enables exactly when the driver holds
one enable on each such clock and none on the other (`ClkHeld`).  Every step of the probe keeps
that but one: when `clk_prepare_enable` fails on the gate, the gate's handle is held without an
enable, and `err_clk` disables the gate all the same.
-/

namespace CskySound.Lifecycle

open Foundation Driver Clock

def ClkHeld (i2s : CskyI2s) : Prop :=
  i2s.clkEnables .audio = (if i2s.i2sClk then 1 else 0) ∧
    i2s.clkEnables .gate = (if i2s.i2sClkGate then 1 else 0)

instance : DecidablePred ClkHeld := fun _ => inferInstanceAs (Decidable (_ ∧ _))

def ClkBalanced (enables : DrvClk → Int) : Prop := enables .audio = 0 ∧ enables .gate = 0

instance : DecidablePred ClkBalanced := fun _ => inferInstanceAs (Decidable (_ ∧ _))

def Unclocked (i2s : CskyI2s) : Prop :=
  i2s.i2sClk = false ∧ i2s.i2sClkGate = false ∧ ClkBalanced i2s.clkEnables

theorem Unclocked.clkHeld {i2s : CskyI2s} (h : Unclocked i2s) : ClkHeld i2s := by
  obtain ⟨hc, hg, ha, hb⟩ := h
  simp [ClkHeld, hc, hg, ha, hb]

@[simp] theorem clkPrepareEnable_eq (i2s : CskyI2s) (c : DrvClk) (ret : Int) :
    clkPrepareEnable i2s c ret =
      { i2s with clkEnables := fun c' => i2s.clkEnables c' + if ret = 0 ∧ c' = c then 1 else 0 } := by
  unfold clkPrepareEnable
  cases i2s
  split_ifs with hr
  · congr 1
    funext c'
    by_cases hc : c' = c <;> simp [hc, hr, Function.update_apply]
  · simp [hr]

theorem errClk_balanced {i2s : CskyI2s} (h : ClkHeld i2s) : ClkBalanced (errClk i2s).clkEnables := by
  obtain ⟨ha, hg⟩ := h
  unfold errClk clkDisableUnprepare
  cases hc : i2s.i2sClk <;> cases hgc : i2s.i2sClkGate <;>
    simp_all [ClkBalanced, Function.update_apply]

/-! ## The probe, phase by phase -/

theorem probeStart_ok {pdev : PlatformDevice} {i2s : CskyI2s} (h : probeStart pdev = .ok i2s) :
    Unclocked i2s := by
  unfold probeStart at h
  rcases hr : pdev.ioremap with ret | regs <;> simp only [hr] at h <;> split_ifs at h <;> cases h
  exact ⟨rfl, rfl, rfl, rfl⟩

theorem probeStart_error {pdev : PlatformDevice} {e : ProbeError}
    (h : probeStart pdev = .error e) : ClkBalanced e.clkEnables := by
  unfold probeStart at h
  rcases hr : pdev.ioremap with ret | regs <;> simp only [hr] at h <;> split_ifs at h <;> cases h
  all_goals exact ⟨rfl, rfl⟩

theorem probeClocks_spec {pdev : PlatformDevice} {i2s : CskyI2s}
    (hg : i2s.i2sClkGate = false) (hb : ClkBalanced i2s.clkEnables) :
    match probeClocks pdev i2s with
    | .ok i2s' => ClkHeld i2s'
    | .error e => ClkBalanced e.clkEnables ∨ e.clkEnables .audio = 0 ∧ e.clkEnables .gate = -1 ∧
        e.log.getLast? = some "Failed to enable clk 'gate'\n" := by
  obtain ⟨ha₀, hg₀⟩ := hb
  generalize h : probeClocks pdev i2s = r
  unfold probeClocks at h
  split at h
  · subst h
    exact Or.inl ⟨ha₀, hg₀⟩
  dsimp only at h
  split at h
  · subst h
    rename_i ha
    exact Or.inl ⟨by simp [ha, ha₀], by simp [hg₀]⟩
  rename_i ha
  simp only [ne_eq, not_not] at ha
  split at h
  · subst h
    exact Or.inl (errClk_balanced (by simp [ClkHeld, ha, ha₀, hg₀, hg]))
  split at h
  · subst h
    rename_i hgate
    refine Or.inr ⟨?_, ?_, ?_⟩ <;>
      simp [errClk, clkDisableUnprepare, Function.update_apply, CskyI2s.devErr,
        CskyI2s.devPrintk, ha, hgate, ha₀, hg₀]
  rename_i hgate
  simp only [ne_eq, not_not] at hgate
  split at h
  · subst h
    exact Or.inl (errClk_balanced (by simp [ClkHeld, ha, hgate, ha₀, hg₀]))
  split at h
  · subst h
    exact Or.inl (errClk_balanced (by simp [ClkHeld, ha, hgate, ha₀, hg₀]))
  · subst h
    simp [ClkHeld, ha, hgate, ha₀, hg₀]

theorem probeSrcClk_ok {pdev : PlatformDevice} {i2s i2s' : CskyI2s} (hu : Unclocked i2s)
    (h : probeSrcClk pdev i2s = .ok i2s') : ClkHeld i2s' := by
  unfold probeSrcClk at h
  split at h
  · cases h
    exact hu.clkHeld
  · have hs := @probeClocks_spec pdev i2s hu.2.1 hu.2.2
    rw [h] at hs
    exact hs

theorem probeSettings_clkHeld {hd : CskyI2sHeader} {pdev : PlatformDevice} {i2s : CskyI2s}
    (h : ClkHeld i2s) : ClkHeld (probeSettings hd pdev i2s) := by
  unfold probeSettings
  split_ifs <;> exact h

theorem probeRegister_error {pdev : PlatformDevice} {i2s : CskyI2s} {e : ProbeError}
    (hc : ClkHeld i2s) (h : probeRegister pdev i2s = .error e) : ClkBalanced e.clkEnables := by
  unfold probeRegister at h
  split_ifs at h <;> cases h <;> exact errClk_balanced hc

/-! ## The whole probe -/

theorem cskyI2sProbe_clkHeld {hd : CskyI2sHeader} {pdev : PlatformDevice} {i2s : CskyI2s}
    (h : cskyI2sProbe hd pdev = .ok i2s) : ClkHeld i2s := by
  unfold cskyI2sProbe at h
  rcases hs : probeStart pdev with e | i2s₁ <;> simp only [hs, reduceCtorEq] at h
  rcases hc : probeSrcClk pdev i2s₁ with e | i2s₂ <;> simp only [hc, reduceCtorEq] at h
  rw [probeRegister_ok h]
  exact @probeSettings_clkHeld hd pdev i2s₂ (probeSrcClk_ok (probeStart_ok hs) hc)

/--
A failed `csky_i2s_probe` gives back every enable it took on the `audio` clock, and on the gate
too unless enabling the gate is what failed: then `err_clk` disables the gate it never enabled,
one disable more than enables.
-/
theorem cskyI2sProbe_error_clkEnables {hd : CskyI2sHeader} {pdev : PlatformDevice}
    {e : ProbeError} (h : cskyI2sProbe hd pdev = .error e) :
    ClkBalanced e.clkEnables ∨ e.clkEnables .audio = 0 ∧ e.clkEnables .gate = -1 ∧
      e.log.getLast? = some "Failed to enable clk 'gate'\n" := by
  unfold cskyI2sProbe at h
  rcases hs : probeStart pdev with e₁ | i2s₁ <;> simp only [hs, Except.error.injEq, reduceCtorEq] at h
  · exact .inl (h ▸ probeStart_error hs)
  have hu := probeStart_ok hs
  rcases hc : probeSrcClk pdev i2s₁ with e₂ | i2s₂ <;>
    simp only [hc, Except.error.injEq, reduceCtorEq] at h
  · unfold probeSrcClk at hc
    split at hc
    · cases hc
    · have hs := @probeClocks_spec pdev i2s₁ hu.2.1 hu.2.2
      rw [hc] at hs
      exact h ▸ hs
  · exact .inl (probeRegister_error (probeSettings_clkHeld (probeSrcClk_ok hu hc)) h)

def gateFailingDevice : PlatformDevice :=
  { samplePlatformDevice with clkPrepareEnable := fun name => if name = "gate" then -5 else 0 }

theorem cskyI2sProbe_error_clkEnables_gate :
    let e := match cskyI2sProbe sampleHeader gateFailingDevice with
      | .error e => e
      | .ok _ => ⟨0, [], fun _ => 0⟩
    cskyI2sProbe sampleHeader gateFailingDevice = .error e ∧ e.clkEnables .gate = -1 ∧
      (ClkBalanced e.clkEnables ∨ e.clkEnables .audio = 0 ∧ e.clkEnables .gate = -1 ∧
        e.log.getLast? = some "Failed to enable clk 'gate'\n") := by
  intro e
  exact ⟨rfl, by decide, @cskyI2sProbe_error_clkEnables sampleHeader gateFailingDevice e rfl⟩

/-! ## Runs and `remove` -/

variable {hd : CskyI2sHeader} {clk : ClkOps}

theorem daiCall_clkHeld {i2s i2s' : CskyI2s} {c : DaiCall} {r : Int}
    (h : daiCall hd clk i2s c = some (r, i2s')) (hc : ClkHeld i2s) : ClkHeld i2s' := by
  rw [daiCall_frame h]
  exact hc

theorem runCalls_clkHeld {i2s i2s' : CskyI2s} {cs : List DaiCall}
    (h : runCalls hd clk i2s cs = some i2s') (hc : ClkHeld i2s) : ClkHeld i2s' := by
  induction cs generalizing i2s with
  | nil =>
    cases h
    exact hc
  | cons c cs ih =>
    obtain ⟨_, _, hstep, hrun⟩ := runCalls_cons h
    exact ih hrun (daiCall_clkHeld hstep hc)

/--
Probe, any run of callbacks, then `csky_i2s_remove`: every enable the driver took on its clocks
has been given back.
-/
theorem cskyI2sRemove_balanced {pdev : PlatformDevice} {i2s i2s' : CskyI2s} {cs : List DaiCall}
    (hp : cskyI2sProbe hd pdev = .ok i2s) (h : runCalls hd clk i2s cs = some i2s') :
    (cskyI2sRemove i2s').1 = 0 ∧ ClkBalanced (cskyI2sRemove i2s').2.clkEnables :=
  ⟨rfl, errClk_balanced (runCalls_clkHeld h (cskyI2sProbe_clkHeld hp))⟩

theorem cskyI2sRemove_balanced_after_start :
    let cs := [DaiCall.daiProbe, .trigger sndrvPcmStreamPlayback SndrvPcmTrigger.start]
    let i2s' := (runCalls sampleHeader exactClk sampleProbed cs).getD sampleProbed
    cskyI2sProbe sampleHeader samplePlatformDevice = .ok sampleProbed ∧
      runCalls sampleHeader exactClk sampleProbed cs = some i2s' ∧
      (cskyI2sRemove i2s').1 = 0 ∧ ClkBalanced (cskyI2sRemove i2s').2.clkEnables := by
  intro cs i2s'
  exact ⟨rfl, rfl, @cskyI2sRemove_balanced sampleHeader exactClk samplePlatformDevice sampleProbed
    i2s' cs rfl rfl⟩

end CskySound.Lifecycle
