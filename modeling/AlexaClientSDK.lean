import AlexaClientSDK.MimeReplay
import AlexaClientSDK.DirectiveDialog
import AlexaClientSDK.DirectiveOrder
import AlexaClientSDK.CertifiedDelivery
import AlexaClientSDK.ContextEndpoints
import AlexaClientSDK.AlertRoundTrip
import AlexaClientSDK.AlertRendering
import AlexaClientSDK.NotificationQueue
import AlexaClientSDK.NotificationRendering
import AlexaClientSDK.ExecutorDelivery
import AlexaClientSDK.SettingRequests
import AlexaClientSDK.SettingSynchronization
import AlexaClientSDK.LivePlaylistSearch
import AlexaClientSDK.EndpointPasses
import AlexaClientSDK.EndpointRequests
import AlexaClientSDK.EndpointAnswers
import AlexaClientSDK.AudioPlayerChannel
import AlexaClientSDK.DisplayTimers
import AlexaClientSDK.Utterances
import AlexaClientSDK.SpeakResults
import AlexaClientSDK.RegistrationFutures
import AlexaClientSDK.EndpointRouting
import AlexaClientSDK.RouterRequests
import AlexaClientSDK.ActiveTransports
import AlexaClientSDK.SerializedRequests
import AlexaClientSDK.MimeDispatch
import AlexaClientSDK.SdsEndOfStream
import AlexaClientSDK.HandlerAccounting
import AlexaClientSDK.AnsweredChanges
import AlexaClientSDK.MultiTimer
import AlexaClientSDK.DialogIdle
import AlexaClientSDK.DialogTimeOuts
import AlexaClientSDK.PlayerAuthorization
import AlexaClientSDK.TokenLifetime
import AlexaClientSDK.EqualizerRestarts
import AlexaClientSDK.DefaultAttachmentReader
import AlexaClientSDK.MimeAborts
import AlexaClientSDK.MimeBareParts
import AlexaClientSDK.StopAllActivities
import AlexaClientSDK.FocusNotices
import AlexaClientSDK.DirectiveRouting
import AlexaClientSDK.ContextSpellings
import AlexaClientSDK.CaptionManager
import AlexaClientSDK.CueLines
import AlexaClientSDK.RuntimeLines
import AlexaClientSDK.InitVectors
import AlexaClientSDK.AlertNotices
import AlexaClientSDK.AlertUpdates
import AlexaClientSDK.DecrypterWrites
import AlexaClientSDK.ProgressReports
import AlexaClientSDK.JsonGenerator
import AlexaClientSDK.CodePairs
import AlexaClientSDK.Streambuf
import AlexaClientSDK.Timer
import AlexaClientSDK.EqualizerLinearBandMapper
import AlexaClientSDK.DiscoveryEventSender
import AlexaClientSDK.StringReplacement
import AlexaClientSDK.BufferLayout
import AlexaClientSDK.ChannelVolumes
import AlexaClientSDK.RelativeUrls
import AlexaClientSDK.PostConnectSequencer
import AlexaClientSDK.LogEntries
