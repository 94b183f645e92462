import WitcherSeamless.Wire.Bytes
import WitcherSeamless.Wire.Packets
import WitcherSeamless.Narrative.FactManager
import WitcherSeamless.Narrative.FactCache
import WitcherSeamless.Narrative.QuestSync
import WitcherSeamless.Narrative.StoryWindow
import WitcherSeamless.Narrative.Interleaving
import WitcherSeamless.Narrative.ScriptHooks
import WitcherSeamless.Server.FactRelay
import WitcherSeamless.Motion.Snapshot
import WitcherSeamless.Motion.Interpolator
import WitcherSeamless.Motion.RingBuffer
import WitcherSeamless.Motion.Recovery
import WitcherSeamless.Script.AtomicFacts
import WitcherSeamless.Client.HandshakeGate
import WitcherSeamless.Script.TimeSmoothing
import WitcherSeamless.Script.Economy
import WitcherSeamless.Motion.AngleWrap
import WitcherSeamless.Motion.Bracketing
import WitcherSeamless.Motion.Binary32
import WitcherSeamless.Client.InventoryBridge
import WitcherSeamless.Client.Outbound
import WitcherSeamless.Motion.BasicInterpolator
import WitcherSeamless.Motion.RecoveryModes
import WitcherSeamless.Script.WorldState
import WitcherSeamless.Server.Registry
import WitcherSeamless.Client.Dashboard
import WitcherSeamless.Client.InputManager
import WitcherSeamless.Client.Scaling
import WitcherSeamless.Client.Renderer
import WitcherSeamless.Client.DashboardView
import WitcherSeamless.Script.Loot
