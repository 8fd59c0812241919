import Transcript.Proofs.Message.Made
import Transcript.Tap

namespace Transcript

/-- Who talks to which model in which conversation, named by texts. The name of the agent is a
setting, and is checked only when a message is made. -/
structure Session where
  threadId : String
  promptId : String
  sessionId : String
  checkpointId : String
  modelId : String
  providerId : Option String := none
  agent : Value := .null

namespace Session

def identity (session : Session) : Identity :=
  .ofTexts session.threadId session.promptId session.sessionId session.checkpointId

def origin (session : Session) (request : Option Request) : Origin where
  agent := session.agent
  request
  model := .ofTexts session.modelId session.providerId

end Session

/-- What a handler is asked to record: a request, one event, or a tapped stream as far as its
consumer takes it. -/
inductive Operation (ε : Type) where
  | saveRequest (session : Session) (request : Request)
  | saveEvent (session : Session) (request : Option Request) (event : Event)
  | tapStream (session : Session) (request : Option Request) (stream : Stream ε)
    (count : Option Nat)

variable {σ ε : Type}

/-- The work that makes messages for an identity. -/
structure Making where
  work : Recording (List Message)
  identity : Identity

/-- How the message of an element is made; failures of the completion have none. -/
def Item.makings (origin : Origin) (identity : Identity) (item : Item) : List Making :=
  if item.isCompletionFailure then []
  else [⟨Option.toList <$> item.message origin identity.checkpointId, identity⟩]

namespace Operation

def perform (gateway : Gateway σ) (office : Office σ) : Operation ε → Office σ
  | .saveRequest session request =>
    (gateway.saveRequest (session.origin (some request)) session.identity
      (request.turns.map .checked) office).2
  | .saveEvent session request event =>
    (gateway.saveItem (session.origin request) session.identity (.event event) office).2
  | .tapStream session request stream count =>
    (Tap.run (some gateway) (session.origin request) session.identity stream count office).2

/-- How the messages of an operation are made, in order. -/
def makings : Operation ε → List Making
  | .saveRequest session request =>
    [⟨Message.ofTurns (session.origin (some request)) session.identity
      (request.turns.map .checked), session.identity⟩]
  | .saveEvent session request event =>
    [⟨Option.toList <$> Message.ofEvent (session.origin request) session.identity.checkpointId
      event, session.identity⟩]
  | .tapStream session request stream count =>
    (stream.items.take (count.getD stream.items.length)).flatMap
      (Item.makings (session.origin request) session.identity)

end Operation

/-- The messages that were made so far, each with the identity that it was made for, and the desk
that they were made at. -/
structure Made where
  desk : Desk
  messages : List (Message × Identity) := []

namespace Made

def add (made : Made) (making : Making) : Made :=
  match making.work.result made.desk with
  | (.ok messages, desk) =>
    ⟨desk, made.messages ++ messages.map fun message => (message, making.identity)⟩
  | (.error _, desk) => { made with desk }

/-- The messages of operations, in order. -/
def ofOperations (desk : Desk) (operations : List (Operation ε)) : Made :=
  (operations.flatMap Operation.makings).foldl add { desk }

def under (made : Made) (thread checkpoint : String) : List Message :=
  (made.messages.filter fun message =>
    message.2.storageKey.sameKey (.tuple [.str thread, .str checkpoint])).map Prod.fst

end Made

/-- Work under an identity of texts that depends on the desk by the number of issued identifiers
alone. -/
structure Making.IsFaithful (making : Making) : Prop where
  discreet : making.work.Discreet
  identity : ∃ threadId promptId sessionId checkpointId,
    making.identity = .ofTexts threadId promptId sessionId checkpointId

theorem Item.makings_faithful (origin : Origin) (session : Session) (item : Item) :
    ∀ making ∈ item.makings origin session.identity, making.IsFaithful := by
  intro making member
  unfold makings at member
  split at member
  · cases member
  · cases List.mem_singleton.mp member
    exact ⟨(item.discreet_message origin _).map _, _, _, _, _, rfl⟩

theorem Operation.makings_faithful (operation : Operation ε) :
    ∀ making ∈ operation.makings, making.IsFaithful := by
  intro making member
  cases operation with
  | saveRequest session request =>
    cases List.mem_singleton.mp member
    exact ⟨Message.discreet_ofTurns _ _ _, _, _, _, _, rfl⟩
  | saveEvent session request event =>
    exact Item.makings_faithful _ session (.event event) making member
  | tapStream session request stream count =>
    obtain ⟨item, _, inside⟩ := List.mem_flatMap.mp member
    exact item.makings_faithful _ session making inside

/-- Faithful work that makes flat messages. -/
structure Making.IsPlain (making : Making) : Prop extends making.IsFaithful where
  flat : making.work.Yields fun messages => ∀ message ∈ messages, message.IsFlat

theorem Session.origin_isPlain (session : Session) (request : Option Request) :
    (session.origin request).IsPlain := ⟨session.modelId, session.providerId, rfl⟩

theorem Item.makings_isPlain {origin : Origin} (plain : origin.IsPlain) (session : Session)
    (item : Item) : ∀ making ∈ item.makings origin session.identity, making.IsPlain := by
  intro making member
  refine ⟨item.makings_faithful origin session making member, ?_⟩
  unfold makings at member
  split at member
  · cases member
  · cases List.mem_singleton.mp member
    refine (item.message_flat plain _).map fun made flat => ?_
    cases made with
    | none => simp
    | some message => simpa using flat

theorem Operation.makings_isPlain (operation : Operation ε) :
    ∀ making ∈ operation.makings, making.IsPlain := by
  cases operation with
  | saveRequest session request =>
    intro making member
    cases List.mem_singleton.mp member
    exact ⟨makings_faithful (.saveRequest session request) _ member,
      Message.ofTurns_flat (session.origin_isPlain _) _ _⟩
  | saveEvent session request event =>
    exact Item.makings_isPlain (session.origin_isPlain request) session (.event event)
  | tapStream session request stream count =>
    intro making member
    obtain ⟨item, _, inside⟩ := List.mem_flatMap.mp member
    exact item.makings_isPlain (session.origin_isPlain request) session making inside

namespace Made

variable {made : Made} {holds : Message → Prop}

/-- What all further messages have in common with those before, all messages have. -/
theorem add_yields {making : Making}
    (yields : making.work.Yields fun messages => ∀ message ∈ messages, holds message)
    (before : ∀ message ∈ made.messages, holds message.1) :
    ∀ message ∈ (made.add making).messages, holds message.1 := by
  replace yields := yields made.desk
  rcases reached : making.work.result made.desk with ⟨outcome, desk⟩
  rw [reached] at yields
  unfold add
  rw [reached]
  cases outcome with
  | error fault => exact before
  | ok messages =>
    intro message member
    rcases List.mem_append.mp member with old | new
    · exact before message old
    · obtain ⟨inner, inside, rfl⟩ := List.mem_map.mp new
      exact yields messages rfl inner inside

theorem foldl_add_yields {makings : List Making}
    (yields : ∀ making ∈ makings,
      making.work.Yields fun messages => ∀ message ∈ messages, holds message)
    (before : ∀ message ∈ made.messages, holds message.1) :
    ∀ message ∈ (makings.foldl add made).messages, holds message.1 := by
  induction makings generalizing made with
  | nil => exact before
  | cons making rest ih =>
    obtain ⟨first, others⟩ := List.forall_mem_cons.mp yields
    exact ih others (add_yields first before)

/-- What all work of operations gives its messages, all messages of these operations have. -/
theorem ofOperations_yields {desk : Desk} {operations : List (Operation ε)}
    (yields : ∀ operation ∈ operations, ∀ making ∈ operation.makings,
      making.work.Yields fun messages => ∀ message ∈ messages, holds message) :
    ∀ message ∈ (ofOperations desk operations).messages, holds message.1 := by
  unfold ofOperations
  apply foldl_add_yields
  · intro making member
    obtain ⟨operation, here, inside⟩ := List.mem_flatMap.mp member
    exact yields operation here making inside
  · intro message member
    cases member

/-- The messages of operations are flat. -/
theorem ofOperations_flat {desk : Desk} {operations : List (Operation ε)} :
    ∀ message ∈ (ofOperations desk operations).messages, message.1.IsFlat := by
  apply ofOperations_yields
  intro operation _ making inside
  exact (operation.makings_isPlain making inside).flat

theorem mem_of_mem_under {thread checkpoint : String} {message : Message}
    (member : message ∈ made.under thread checkpoint) :
    ∃ identity, (message, identity) ∈ made.messages := by
  obtain ⟨entry, inside, rfl⟩ := List.mem_map.mp member
  exact ⟨entry.2, (List.mem_filter.mp inside).1⟩

theorem under_flat {desk : Desk} {operations : List (Operation ε)} {thread checkpoint : String} :
    ∀ message ∈ (ofOperations desk operations).under thread checkpoint, message.IsFlat := by
  intro message member
  obtain ⟨_, inside⟩ := mem_of_mem_under member
  exact ofOperations_flat _ inside

end Made

end Transcript
