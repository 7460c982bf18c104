import ReactNativeSkia.Misc.Rect
import ReactNativeSkia.Misc.Run
import ReactNativeSkia.Components.Proofs.ScrollRange
import ReactNativeSkia.Misc.ParentForest
import ReactNativeSkia.Compositor.Layers.Proofs.Geometry
import ReactNativeSkia.Compositor.Proofs.BufferAge
import ReactNativeSkia.Compositor.Proofs.Scheduling
import ReactNativeSkia.Compositor.Proofs.ScreenRuns
import ReactNativeSkia.Mounting.Proofs.Transactions
import ReactNativeSkia.Mounting.Proofs.MutationList
import ReactNativeSkia.Compositor.Layers.Proofs.DamageSound
import ReactNativeSkia.Compositor.Layers.Proofs.PaintOrder
import ReactNativeSkia.Compositor.Layers.Proofs.ScrollDamage
import ReactNativeSkia.Navigation.Proofs.ScreenFrame
import ReactNativeSkia.Navigation.Proofs.FocusState
import ReactNativeSkia.Components.Proofs.KeyPresses
import ReactNativeSkia.Components.Proofs.ControlledEcho
import ReactNativeSkia.Timers.Proofs.Reschedule
import ReactNativeSkia.Timers.Proofs.Abort
import ReactNativeSkia.Timers.Proofs.JsTimers
import ReactNativeSkia.Timers.Proofs.Memory
import ReactNativeSkia.Timers.Proofs.Firing
import ReactNativeSkia.Sdk.Proofs.Mutex
import ReactNativeSkia.Sdk.Proofs.Delivery
import ReactNativeSkia.Sdk.Proofs.WebSocketOrder
import ReactNativeSkia.Modules.Proofs.ResponseBody
import ReactNativeSkia.Sdk.Proofs.NetworkWakeup
import ReactNativeSkia.Sdk.Proofs.NetworkAnswers
import ReactNativeSkia.Sdk.Proofs.CacheTransparency
import ReactNativeSkia.Modules.Proofs.RequestTable
import ReactNativeSkia.Modules.Proofs.AbortedRequests
import ReactNativeSkia.Input.InputEventManager
import ReactNativeSkia.Input.Proofs.KeyRepeat
import ReactNativeSkia.Input.Proofs.ActiveClients
import ReactNativeSkia.Sdk.Proofs.AlertDismissal
import ReactNativeSkia.Sdk.Proofs.SubWindowDamage
import ReactNativeSkia.Caches.Proofs.ExpiryTime
import ReactNativeSkia.Caches.Proofs.SizeLimit
import ReactNativeSkia.Caches.Proofs.Lifetime
import ReactNativeSkia.Caches.Proofs.Uncacheable
import ReactNativeSkia.Images.Proofs.ShownSource
import ReactNativeSkia.Images.Proofs.InProgress
import ReactNativeSkia.Compositor.Layers.Proofs.DamageList
import ReactNativeSkia.Sdk.Proofs.PoolRefinement
import ReactNativeSkia.Input.Proofs.FlushedKeys
import ReactNativeSkia.Animation.Proofs.FrameLoop
import ReactNativeSkia.Animation.Proofs.ActivityIndicators
import ReactNativeSkia.Sdk.Proofs.KeyHighlight
import ReactNativeSkia.Sdk.Proofs.NearestKeys
import ReactNativeSkia.Sdk.Proofs.AlertLife
import ReactNativeSkia.Modules.NetworkLog
import ReactNativeSkia.Modules.Proofs.LastUpdate
import ReactNativeSkia.Components.Proofs.PaintedText
import ReactNativeSkia.Navigation.Proofs.CandidateOrder
import ReactNativeSkia.Navigation.Proofs.FocusSearch
import ReactNativeSkia.Navigation.Proofs.FocusAdvance
import ReactNativeSkia.Navigation.Proofs.DefaultFocus
import ReactNativeSkia.Components.Proofs.ScrollToFocus
import ReactNativeSkia.Components.Proofs.KeyScroll
import ReactNativeSkia.Compositor.Layers.Proofs.ScrollBarTrack
import ReactNativeSkia.Compositor.Layers.Proofs.ScrollBarHistory
import ReactNativeSkia.Components.Proofs.TypedText
import ReactNativeSkia.Components.Proofs.MaxLength
import ReactNativeSkia.Components.Proofs.Utf8Text
import ReactNativeSkia.Sdk.Proofs.DirtyRects
import ReactNativeSkia.Images.Proofs.ResizeModes
import ReactNativeSkia.Sdk.Proofs.WebSocketUrl
import ReactNativeSkia.Sdk.Proofs.BinaryMessages
import ReactNativeSkia.Sdk.Proofs.HeaderDelivery
import ReactNativeSkia.Modules.Proofs.UnknownIds
import ReactNativeSkia.Compositor.Layers.Proofs.Recycling
import ReactNativeSkia.Modules.Proofs.Observing
import ReactNativeSkia.Sdk.Proofs.SliceWidth
import ReactNativeSkia.Scripts.Proofs.PackageDiscovery
import ReactNativeSkia.Scripts.Proofs.ViewConfigs
import ReactNativeSkia.Scripts.Proofs.BuildTargets
import ReactNativeSkia.Mounting.Proofs.Commands
import ReactNativeSkia.Mounting.Proofs.ShownViews
import ReactNativeSkia.Views.Proofs.PaintedBorder
import ReactNativeSkia.Components.Proofs.EventOrder
import ReactNativeSkia.Navigation.Proofs.EditorAlone
import ReactNativeSkia.Timers.Proofs.CallLog
import ReactNativeSkia.Sdk.Proofs.OSKTyping
