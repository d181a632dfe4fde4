-- The two gates of the HTTP routes (security/webhook-auth): verifyWebhookSecret before a
-- webhook update is stored, and verifyAdminBearerToken before a replay. A webhook request
-- passes only with the secret in its decoded path or in its header, and with no other
-- header secret; a replay passes only with `Bearer` and the admin token.
import TonAgentBot.AgentTurn

namespace ton_agent_bot.webhook_auth

/-! ## The gates -/

/-- The header's part of verifyWebhookSecret, made twice in it: with no header secret (none,
or an empty one), `whenAbsent`; with one, whether it is the secret. -/
def headerCheck (secret : String) (headerSecret : Option String) (whenAbsent : Bool) : Bool :=
  if !headerSecret.any (· ≠ "") then whenAbsent else headerSecret = some secret

/-- `verifyWebhookSecret(request, pathSecret)` against `TELEGRAM_WEBHOOK_SECRET`. The header
`x-telegram-bot-api-secret-token` is given when it is a string; `decodeURIComponent` is
`none` where it throws a URIError, and so does the check. A path secret counts when it is
not empty. -/
def verifyWebhookSecret (decodeURIComponent : String → Option String) (secret : String)
    (headerSecret pathSecret : Option String) : Option Bool :=
  match pathSecret.filter (· ≠ "") with
  | some p =>
    (decodeURIComponent p).map fun decoded =>
      if decoded ≠ secret then false else headerCheck secret headerSecret true
  | none => some (headerCheck secret headerSecret false)

/-- `verifyAdminBearerToken(request)` against `BOT_ADMIN_TOKEN`: the `authorization`
header must start with `Bearer `, and what follows, trimmed, must be the token. -/
def verifyAdminBearerToken (adminToken : String) (authorization : Option String) : Bool :=
  match authorization with
  | some authHeader =>
    "Bearer ".data.isPrefixOf authHeader.data &&
      agent.jsTrim ⟨authHeader.data.drop "Bearer ".length⟩ = adminToken
  | none => false

/-! ## What they let through -/

theorem headerCheck_eq_true_iff (secret : String) (headerSecret : Option String)
    (whenAbsent : Bool) : headerCheck secret headerSecret whenAbsent = true ↔
      (headerSecret.all (· = "") ∧ whenAbsent = true) ∨ (headerSecret = some secret ∧ secret ≠ "") := by
  unfold headerCheck
  rcases headerSecret with _ | h
  · simp
  · by_cases hh : h = ""
    · subst hh; simp [eq_comm]
    · simp only [Option.any_some, Option.all_some, hh, Option.some.injEq]
      constructor
      · intro e; simp [hh] at e; exact .inr ⟨e, e ▸ hh⟩
      · rintro (⟨h1, -⟩ | ⟨rfl, -⟩) <;> simp_all

end ton_agent_bot.webhook_auth
