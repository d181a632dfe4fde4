import TonAgentBot.Js.Text
import TonAgentBot.Js.Json
import TonAgentBot.Run
import TonAgentBot.Approvals.Store
import TonAgentBot.Approvals.Engine
import TonAgentBot.Ingestion
import TonAgentBot.ChatLock
import TonAgentBot.AuditChain
import TonAgentBot.AgentTurn
import TonAgentBot.Updates.Route
import TonAgentBot.Updates.Worker
import TonAgentBot.Conversation
import TonAgentBot.AuditHash
import TonAgentBot.TurnJob
import TonAgentBot.Wallets
import TonAgentBot.Sessions
import TonAgentBot.ToolPolicy
import TonAgentBot.RateLimit
import TonAgentBot.Chunk
import TonAgentBot.Approvals.Presenter
import TonAgentBot.Js.Replace
import TonAgentBot.Redaction
import TonAgentBot.ResponsePolicy
import TonAgentBot.Telegram.Html
import TonAgentBot.Telegram.DraftStream
import TonAgentBot.Telegram.HtmlMarkup
import TonAgentBot.Telegram.TopicTitle
import TonAgentBot.Telegram.Topics
import TonAgentBot.Config.Env
import TonAgentBot.Telegram.Callbacks
import TonAgentBot.Approvals.Countdown
import TonAgentBot.TonConnect
import TonAgentBot.Preferences
import TonAgentBot.Bootstrap
import TonAgentBot.RateLimitNotice
import TonAgentBot.Telegram.Send
import TonAgentBot.WebhookAuth
