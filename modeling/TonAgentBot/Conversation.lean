-- The conversation history of agent/messages.ts over the agent_messages rows of
-- db/queries/messages.ts. The load orders a session's rows by `created_at` ascending and
-- then applies the limit, so it answers the oldest 80 messages; and SQL fixes no order
-- among rows of the same millisecond.
import Mathlib.Data.List.Sort

namespace ton_agent_bot.conversation

/-! ## The rows and the queries -/

/-- The columns of an agent_messages row that the modelled code reads or writes. The JSON
of the parts is kept as its text; `createdAt` is in milliseconds. -/
structure AgentMessage where
  sessionId : String
  role : String
  partsJson : String
  createdAt : Nat
  deriving DecidableEq, Repr

/-- A `ModelMessage` of the AI SDK: its role and its content. -/
structure ModelMessage where
  role : String
  content : String
  deriving DecidableEq, Repr

def storedNoLater (a b : AgentMessage) : Prop := a.createdAt ≤ b.createdAt

instance : DecidableRel storedNoLater := fun a b => Nat.decLe a.createdAt b.createdAt

instance : IsTotal AgentMessage storedNoLater := ⟨fun a b => le_total a.createdAt b.createdAt⟩

instance : IsTrans AgentMessage storedNoLater := ⟨fun _ _ _ => le_trans⟩

/-- What the database may answer for `ORDER BY created_at ASC`: the rows in some order
with `created_at` non-decreasing. The order of rows with the same `created_at` is the
plan's, which SQL leaves open. -/
structure SortedScan where
  sort : List AgentMessage → List AgentMessage
  perm : ∀ l, (sort l).Perm l
  sorted : ∀ l, (sort l).Sorted storedNoLater

/-- `saveAgentMessage`: the insert of one row, stamped with the clock. -/
def saveAgentMessage (rows : List AgentMessage) (sessionId role partsJson : String)
    (now : Nat) : List AgentMessage :=
  rows ++ [⟨sessionId, role, partsJson, now⟩]

/-- `persistModelMessages`: one insert per message, in order, each stamped with the clock
when it runs. -/
def persistModelMessages (rows : List AgentMessage) (sessionId : String) :
    List (ModelMessage × Nat) → List AgentMessage
  | [] => rows
  | (m, now) :: ms => persistModelMessages (saveAgentMessage rows sessionId m.role m.content now)
      sessionId ms

/-- `getAgentMessagesBySession`: the session's rows, ordered by `created_at` ascending,
then the first `limit` of them. -/
def getAgentMessagesBySession (db : SortedScan) (rows : List AgentMessage) (sessionId : String)
    (limit : Nat := 80) : List AgentMessage :=
  (db.sort (rows.filter (·.sessionId = sessionId))).take limit

/-- `isModelRole`. -/
def isModelRole (role : String) : Bool :=
  role = "system" ∨ role = "user" ∨ role = "assistant" ∨ role = "tool"

/-- The message a row gives, when its role is a model role. -/
def toModelMessage (row : AgentMessage) : Option ModelMessage :=
  if isModelRole row.role then some ⟨row.role, row.partsJson⟩ else none

/-- `loadConversationModelMessages`. -/
def loadConversationModelMessages (db : SortedScan) (rows : List AgentMessage)
    (sessionId : String) : List ModelMessage :=
  (getAgentMessagesBySession db rows sessionId).filterMap toModelMessage

/-! ## The load answers the oldest messages

When a session's rows carry distinct stamps, in the order they were stored, every answer
the database may give to the ordered query is the stored order itself; the limit then
keeps its first 80 rows. -/

theorem pairwise_lt_of_sorted {l r : List AgentMessage} (hp : r.Perm l)
    (hl : l.Pairwise fun a b => a.createdAt < b.createdAt) (hr : r.Sorted storedNoLater) :
    r.Pairwise fun a b => a.createdAt < b.createdAt := by
  have hnd : (r.map (·.createdAt)).Nodup :=
    (hp.map _).nodup_iff.mpr (List.pairwise_map.mpr (hl.imp Nat.ne_of_lt))
  exact (hr.and (List.pairwise_map.mp hnd)).imp fun h => Nat.lt_of_le_of_ne h.1 h.2

instance : IsAntisymm AgentMessage fun a b => a.createdAt < b.createdAt :=
  ⟨fun _ _ h1 h2 => absurd (h1.trans h2) (Nat.lt_irrefl _)⟩

theorem SortedScan.sort_eq (db : SortedScan) {l : List AgentMessage}
    (hl : l.Pairwise fun a b => a.createdAt < b.createdAt) : db.sort l = l :=
  List.eq_of_perm_of_sorted (db.perm l) (pairwise_lt_of_sorted (db.perm l) hl (db.sorted l)) hl

theorem load_returns_oldest_messages (db : SortedScan) (rows : List AgentMessage)
    (sessionId : String)
    (h : (rows.filter (·.sessionId = sessionId)).Pairwise fun a b => a.createdAt < b.createdAt) :
    loadConversationModelMessages db rows sessionId =
      ((rows.filter (·.sessionId = sessionId)).take 80).filterMap toModelMessage := by
  rw [loadConversationModelMessages, getAgentMessagesBySession, db.sort_eq h]

def longSession : List AgentMessage :=
  (List.range 81).map fun i => ⟨"s", "user", if i = 80 then "newest" else "older", i⟩

theorem longSession_filter : longSession.filter (·.sessionId = "s") = longSession :=
  List.filter_eq_self.mpr (by simp [longSession])

theorem longSession_increasing :
    (longSession.filter (·.sessionId = "s")).Pairwise fun a b => a.createdAt < b.createdAt := by
  rw [longSession_filter]
  simpa [longSession, List.pairwise_map] using List.pairwise_lt_range 81

theorem long_session_drops_newest_message (db : SortedScan) :
    (longSession.filter (·.sessionId = "s")).Pairwise
        (fun a b => a.createdAt < b.createdAt) ∧
      loadConversationModelMessages db longSession "s" =
        ((longSession.filter (·.sessionId = "s")).take 80).filterMap toModelMessage ∧
      ⟨"user", "newest"⟩ ∉ loadConversationModelMessages db longSession "s" := by
  have h := load_returns_oldest_messages db longSession "s" longSession_increasing
  refine ⟨longSession_increasing, h, ?_⟩
  rw [h, longSession_filter]
  simp [longSession, ← List.map_take, List.take_range, toModelMessage, isModelRole]

/-! ## Rows of the same millisecond -/

def newestFirstTies : SortedScan :=
  ⟨fun l => l.reverse.insertionSort storedNoLater,
    fun l => (List.perm_insertionSort _ _).trans (List.reverse_perm l),
    fun _ => List.sorted_insertionSort _ _⟩

def sameMillisecond : List AgentMessage :=
  persistModelMessages [] "s" [(⟨"user", "question"⟩, 5), (⟨"assistant", "answer"⟩, 5)]

theorem same_millisecond_messages_reordered :
    loadConversationModelMessages newestFirstTies sameMillisecond "s" =
      [⟨"assistant", "answer"⟩, ⟨"user", "question"⟩] := by
  decide

/-- Both ways the load departs from the most recent 80 messages in stored order: whatever
the database answers, the 81st message of a long session is left out; and the ordered query
may give two messages of one millisecond back in the other order. -/
theorem history_load_keeps_oldest_and_reorders_ties :
    (∀ db : SortedScan, ⟨"user", "newest"⟩ ∉ loadConversationModelMessages db longSession "s") ∧
      loadConversationModelMessages newestFirstTies sameMillisecond "s" =
        [⟨"assistant", "answer"⟩, ⟨"user", "question"⟩] :=
  ⟨fun db => (long_session_drops_newest_message db).2.2, same_millisecond_messages_reordered⟩

end ton_agent_bot.conversation
