import CskySound.Foundation.CInt
import CskySound.Foundation.Kernel
import CskySound.Driver.State
import CskySound.Driver.ClkRate
import CskySound.Driver.Dai
import CskySound.Driver.Probe
import CskySound.Clock.Calculator
import CskySound.Clock.Refinement
import CskySound.Clock.Cascade
import CskySound.Clock.History
import CskySound.Clock.Streams
import CskySound.Lifecycle.Runs
import CskySound.Lifecycle.Format
import CskySound.Lifecycle.Playback
import CskySound.Lifecycle.ClkEnables
import CskySound.Lifecycle.Interrupts
import CskySound.Lifecycle.Bind
import CskySound.Lifecycle.Sysclk
