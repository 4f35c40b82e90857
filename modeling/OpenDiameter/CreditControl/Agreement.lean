import OpenDiameter.CreditControl.Exchange
import OpenDiameter.Foundation.Transitions

/-!
Whether a client and a server of credit control agree on being open, where nothing is on its way
between them.
-/

namespace OpenDiameter.CreditControl

open OpenDiameter.Parser OpenDiameter.Framework OpenDiameter.Foundation

namespace CcExchange

variable {exchange : CcExchange}

/-- The events of answers. -/
def answerEvents : List CcClientEvent :=
  [.initialAnswer, .updateAnswer, .terminationAnswer, .directDebitingAnswer,
    .refundAccountAnswer, .checkBalanceAnswer, .priceEnquiryAnswer]

/-- The events that come to the client. -/
def clientEvents : List CcClientEvent :=
  answerEvents ++ [.initialRequest, .terminationRequest, .directDebitingRequest,
    .refundAccountRequest, .checkBalanceRequest, .priceEnquiryRequest, .sentUpdateRequest,
    .txExpired, .terminateService, .grantService]

/-- A message of a request of the kind. -/
structure Carries (msg : Ccr) (kind : CcRequest) : Prop where
  authApplicationId : msg.authApplicationId = some ccApplicationId
  ccRequestType : msg.ccRequestType = some (typeOf kind)
  requestedAction : ∀ action ∈ actionOf kind, msg.requestedAction = some action

/-- On its way to the server there is a request other than an update, or its timer expired: it
leaves the open state when that is served. -/
def Closing (queue : List CcQueued) (requests : List Ccr) : Prop :=
  (∃ queued ∈ queue, queued.event ≠ .request .update) ∨
    ∃ msg ∈ requests, msg.ccRequestType ≠ some ccTypeUpdateRequest

/-- An update request is on its way to the server. -/
def Updating (queue : List CcQueued) (requests : List Ccr) : Prop :=
  (∃ queued ∈ queue, queued.event = .request .update) ∨
    ∃ msg ∈ requests, msg.ccRequestType = some ccTypeUpdateRequest

/-- An answer is on its way to the client. -/
def Answering (queue : List CcClientEvent) (answers : List Cca) : Prop :=
  (∃ event ∈ queue, event ∈ answerEvents) ∨ answers ≠ []

/-- What the client serves while the server stays open. -/
inductive Follows (exchange : CcExchange) : CcClientState → CcClientEvent → Prop where
  | initialAnswer : Follows exchange .stPendingI .initialAnswer
  | txExpired : Follows exchange .stPendingI .txExpired
  | grantInitial : Follows exchange .stPendingI .grantService
  | termination : Follows exchange .stOpen .terminationRequest
  | update (unanswered : Updating exchange.server.queue exchange.requests ∨
      Answering exchange.client.queue exchange.answers) :
      Follows exchange .stOpen .sentUpdateRequest
  | updateAnswer : Follows exchange .stPendingU .updateAnswer
  | grantUpdate : Follows exchange .stPendingU .grantService

/-- The event opens the client. -/
def Opens (state : CcClientState) (event : CcClientEvent) : Prop :=
  (state = .stPendingI ∧ event = .initialAnswer) ∨ (state = .stPendingU ∧ event = .updateAnswer)

def Pending (client : CcClient) : Prop :=
  client.state = .stPendingI ∨ client.state = .stPendingU

/-- What the client may serve. -/
structure ClientServes (exchange : CcExchange) (event : CcClientEvent)
    (queue : List CcClientEvent) : Prop where
  /-- What opens the client finds the server open. -/
  opens : Opens exchange.client.state event → exchange.server.state = .stOpen ∨ queue ≠ []
  /-- An open server is not left alone. -/
  stays : exchange.server.state = .stOpen →
    Closing exchange.server.queue exchange.requests ∨
      Follows exchange exchange.client.state event

/-- What the server may serve. -/
structure ServerServes (exchange : CcExchange) (verdicts : CcVerdicts) (queued : CcQueued)
    (queue : List CcQueued) : Prop where
  /-- The server opens for a client that waits for its answer, and answers. -/
  opens : exchange.server.state = .stIdle → queued.event = .request .initial →
    verdicts.Accepts .initial → exchange.client.state = .stOpen ∨
      Closing queue exchange.requests ∨
      (Pending exchange.client ∧ verdicts.initialAnswer = true)
  /-- The server leaves no open client. -/
  stays : exchange.server.state = .stOpen →
    ¬(queued.event = .request .update ∧ verdicts.Accepts .update) →
      exchange.client.state ≠ .stOpen ∨ exchange.client.queue ≠ []

/-- An answer raises an event. -/
def Raises (client : CcClient) (msg : Cca) : Prop :=
  ∃ type ∈ msg.ccRequestType, kindOf type client.ccrData.requestedAction.value ≠ none

/-- When a step keeps the agreement. -/
def Keeps (input : CcExchangeInput) (exchange : CcExchange) : Prop :=
  match input with
  | .serveClient _ _ => ∀ event queue, exchange.client.queue = event :: queue →
      ClientServes exchange event queue
  | .serveServer verdicts => ∀ queued queue, exchange.server.queue = queued :: queue →
      ServerServes exchange verdicts queued queue
  | .deliverAnswer => ∀ msg answers, exchange.answers = msg :: answers →
      exchange.server.state = .stOpen → Pending exchange.client →
        Closing exchange.server.queue exchange.requests ∨ Raises exchange.client msg
  | _ => True

/-- What the steps keep. -/
structure Matched (exchange : CcExchange) : Prop where
  clientSent : exchange.client.sent = []
  serverSent : exchange.server.sent = []
  events : ∀ event ∈ exchange.client.queue, event ∈ clientEvents
  requests : ∀ msg ∈ exchange.requests, ∃ kind, Carries msg kind
  rests : exchange.server.Rests
  /-- An open client whose server is not open has an event that closes it. -/
  client : exchange.client.state = .stOpen →
    exchange.server.state = .stOpen ∨ exchange.client.queue ≠ []
  /-- An open server closes, or its client is open or still gets to it. -/
  server : exchange.server.state = .stOpen → exchange.client.state = .stOpen ∨
    Closing exchange.server.queue exchange.requests ∨
    (Pending exchange.client ∧ Answering exchange.client.queue exchange.answers) ∨
    (exchange.client.state = .stPendingU ∧ Updating exchange.server.queue exchange.requests)

theorem Matched.agree (matched : Matched exchange) (quiet : Quiet exchange) : Agree exchange := by
  constructor
  · intro isOpen
    exact (matched.client isOpen).resolve_right (absurd quiet.client)
  · intro isOpen
    have notClosing : ¬Closing exchange.server.queue exchange.requests := by
      rw [Closing, quiet.server, quiet.requests]
      simp
    have notAnswering : ¬Answering exchange.client.queue exchange.answers := by
      rw [Answering, quiet.client, quiet.answers]
      simp
    have notUpdating : ¬Updating exchange.server.queue exchange.requests := by
      rw [Updating, quiet.server, quiet.requests]
      simp
    obtain isOpen | closing | ⟨_, answering⟩ | ⟨_, updating⟩ := matched.server isOpen
    · exact isOpen
    · exact absurd closing notClosing
    · exact absurd answering notAnswering
    · exact absurd updating notUpdating

/-! What is on its way stays so when more comes. -/

theorem Closing.mono {queue others : List CcQueued} {requests more : List Ccr}
    (closing : Closing queue requests) (grows : queue ⊆ others) (sent : requests ⊆ more) :
    Closing others more := by
  apply closing.imp
  · intro ⟨queued, listed, isOther⟩
    exact ⟨queued, grows listed, isOther⟩
  · intro ⟨msg, listed, isOther⟩
    exact ⟨msg, sent listed, isOther⟩

theorem Updating.mono {queue others : List CcQueued} {requests more : List Ccr}
    (updating : Updating queue requests) (grows : queue ⊆ others) (sent : requests ⊆ more) :
    Updating others more := by
  apply updating.imp
  · intro ⟨queued, listed, isUpdate⟩
    exact ⟨queued, grows listed, isUpdate⟩
  · intro ⟨msg, listed, isUpdate⟩
    exact ⟨msg, sent listed, isUpdate⟩

theorem Answering.mono {queue others : List CcClientEvent} {answers more : List Cca}
    (answering : Answering queue answers) (grows : queue ⊆ others)
    (sent : answers ≠ [] → more ≠ []) : Answering others more := by
  apply answering.imp _ sent
  intro ⟨event, listed, isAnswer⟩
  exact ⟨event, grows listed, isAnswer⟩

/-- A step after which the sessions are in their states and more is on its way. -/
theorem Matched.grow {next : CcExchange} (matched : Matched exchange)
    (clientState : next.client.state = exchange.client.state)
    (serverState : next.server.state = exchange.server.state)
    (clientQueue : exchange.client.queue ⊆ next.client.queue)
    (serverQueue : exchange.server.queue ⊆ next.server.queue)
    (requests : exchange.requests ⊆ next.requests)
    (answers : exchange.answers = next.answers) (clientSent : next.client.sent = [])
    (serverSent : next.server.sent = []) (events : ∀ event ∈ next.client.queue, event ∈ clientEvents)
    (carries : ∀ msg ∈ next.requests, ∃ kind, Carries msg kind) : Matched next where
  clientSent := clientSent
  serverSent := serverSent
  events := events
  requests := carries
  rests := by
    rw [CcServer.Rests, serverState]
    exact matched.rests
  client := by
    rw [clientState, serverState]
    intro isOpen
    apply (matched.client isOpen).imp_right
    intro notEmpty isEmpty
    rw [isEmpty] at clientQueue
    exact notEmpty (List.eq_nil_of_subset_nil clientQueue)
  server := by
    rw [clientState, serverState, Pending, clientState, ← answers]
    intro isOpen
    apply (matched.server isOpen).imp_right
    apply Or.imp
    · exact fun closing => closing.mono serverQueue requests
    · apply Or.imp
      · exact fun waits => ⟨waits.1, waits.2.mono clientQueue id⟩
      · exact fun waits => ⟨waits.1, waits.2.mono serverQueue requests⟩

/-! The steps that leave both sessions in their states. -/

/-- One event more for the client, and requests that the application sends. -/
theorem Matched.notify {client : CcClient} (matched : Matched exchange) (event : CcClientEvent)
    (isClient : event ∈ clientEvents) (state : client.state = exchange.client.state)
    (queue : client.queue = exchange.client.queue ++ [event])
    (carries : ∀ msg ∈ client.sent, ∃ kind, Carries msg kind) :
    Matched (exchange.withClient client) := by
  have grows : exchange.client.queue ⊆ client.queue := by
    rw [queue]
    exact List.subset_append_left _ _
  have events : ∀ event ∈ client.queue, event ∈ clientEvents := by
    rw [queue]
    intro other listed
    apply (List.mem_append.1 listed).elim (matched.events other)
    intro isLast
    rw [List.mem_singleton.1 isLast]
    exact isClient
  have carried : ∀ msg ∈ exchange.requests ++ client.sent.reverse, ∃ kind, Carries msg kind := by
    intro msg listed
    apply (List.mem_append.1 listed).elim (matched.requests msg)
    exact fun isSent => carries msg (List.mem_reverse.1 isSent)
  exact @Matched.grow exchange (exchange.withClient client) matched state rfl grows
    (List.Subset.refl _) (List.subset_append_left _ _) rfl rfl matched.serverSent events carried

theorem requestEvent_mem (kind : CcRequest) : requestEvent kind ∈ clientEvents := by
  cases kind <;> decide

/-- The application fills in a request as it should. -/
theorem carries_fillFor (kind : CcRequest) (number : UInt32) (own : CcrData) :
    Carries (fillFor kind number own).parseAppToRaw kind where
  authApplicationId := rfl
  ccRequestType := rfl
  requestedAction action isAction := by
    rw [CcrData.parseAppToRaw, fillFor, Option.mem_def.1 isAction]
    rfl

theorem Matched.request (matched : Matched exchange) (kind : CcRequest) (number : UInt32) :
    Matched (exchange.step (.request kind number)) := by
  rw [step]
  dsimp only
  split
  · apply matched.notify .sentUpdateRequest (by decide)
    · rfl
    · rfl
    · intro msg listed
      dsimp only [CcClient.notify, CcClient.sendCcr, CcClient.fillRequest] at listed
      rw [matched.clientSent] at listed
      rw [List.mem_singleton.1 listed]
      exact ⟨.update, carries_fillFor .update number _⟩
  · apply matched.notify (requestEvent kind) (requestEvent_mem kind)
    · rfl
    · rfl
    · intro msg listed
      dsimp only [CcClient.notify] at listed
      rw [matched.clientSent] at listed
      cases listed

/-- A client that does nothing. -/
theorem Matched.withClient_self (matched : Matched exchange) :
    exchange.withClient exchange.client = exchange := by
  rw [withClient, matched.clientSent]
  obtain ⟨⟨state, ccrData, ccaData, tx, expired, queue, sent⟩, server, requests, answers⟩ := exchange
  cases matched.clientSent
  rw [List.reverse_nil, List.append_nil]

theorem Matched.withServer_self (matched : Matched exchange) :
    exchange.withServer exchange.server = exchange := by
  rw [withServer, matched.serverSent]
  obtain ⟨client, ⟨state, ccrData, ccaData, tcc, queue, sent⟩, requests, answers⟩ := exchange
  cases matched.serverSent
  rw [List.reverse_nil, List.append_nil]

theorem Matched.txTimeout (matched : Matched exchange) :
    Matched (exchange.step .txTimeout) := by
  rw [step, CcClient.step]
  split
  · apply matched.notify .txExpired (by decide)
    · rfl
    · rfl
    · intro msg listed
      dsimp only [CcClient.notify] at listed
      rw [matched.clientSent] at listed
      cases listed
  · rw [matched.withClient_self]
    exact matched

theorem Matched.tccTimeout (matched : Matched exchange) :
    Matched (exchange.step .tccTimeout) := by
  rw [step, CcServer.step]
  split
  · have noAnswers : exchange.answers =
        (exchange.withServer (exchange.server.notify .tccExpired)).answers := by
      rw [withServer]
      dsimp only [CcServer.notify]
      rw [matched.serverSent, List.reverse_nil, List.append_nil]
    exact @Matched.grow exchange (exchange.withServer (exchange.server.notify .tccExpired)) matched
      rfl rfl (List.Subset.refl _) (List.subset_append_left _ _) (List.Subset.refl _) noAnswers
      matched.clientSent rfl matched.events matched.requests
  · rw [matched.withServer_self]
    exact matched

variable {kind : CcRequest}

/-- The event of a request that arrives. -/
theorem rxRequest_carries {msg : Ccr} (session : CcServer) (carries : Carries msg kind) :
    ∃ ccrData, session.rxRequest msg =
      { session with
        ccrData := ccrData
        queue := session.queue ++ [⟨.request kind, some msg⟩] } := by
  have parsed : session.ccrData.parseRawToApp msg =
      ({ ccRequestType := .of (typeOf kind)
         ccRequestNumber := session.ccrData.ccRequestNumber.clear.copyFrom msg.ccRequestNumber
         requestedAction := session.ccrData.requestedAction.clear.copyFrom msg.requestedAction },
        true) := by
    have isAccepted : msg.authApplicationId.all (· = ccApplicationId) = true := by
      rw [carries.authApplicationId]
      rfl
    rw [CcrData.parseRawToApp, if_pos isAccepted, carries.ccRequestType]
    rfl
  have isKind : kindOf (typeOf kind)
      (session.ccrData.requestedAction.clear.copyFrom msg.requestedAction).value = some kind := by
    have isAction := carries.requestedAction
    cases kind with
    | initial => rfl
    | update => rfl
    | termination => rfl
    | _ =>
      rw [isAction _ rfl]
      rfl
  refine ⟨(session.ccrData.parseRawToApp msg).1, ?_⟩
  rw [CcServer.rxRequest, parsed]
  rw [if_pos ⟨rfl, rfl⟩]
  dsimp only [ScholarAttribute.of]
  rw [isKind]

theorem typeOf_update (kind : CcRequest) :
    typeOf kind = ccTypeUpdateRequest ↔ kind = .update := by
  cases kind <;> decide

variable {queue : List CcQueued} {requests : List Ccr}

/-- A request that arrives is still on its way to being served. -/
theorem Closing.deliver {msg : Ccr} (carries : Carries msg kind)
    (closing : Closing queue (msg :: requests)) :
    Closing (queue ++ [⟨.request kind, some msg⟩]) requests := by
  obtain ⟨queued, listed, isOther⟩ | ⟨other, listed, isOther⟩ := closing
  · exact .inl ⟨queued, List.mem_append_left _ listed, isOther⟩
  · cases listed with
    | head =>
      refine .inl ⟨⟨.request kind, some msg⟩, List.mem_append_right _ (.head _), ?_⟩
      intro isUpdate
      rw [carries.ccRequestType] at isOther
      apply isOther
      exact congrArg some ((typeOf_update kind).2 (CcServerEvent.request.inj isUpdate))
    | tail _ listed => exact .inr ⟨other, listed, isOther⟩

theorem Updating.deliver {msg : Ccr} (carries : Carries msg kind)
    (updating : Updating queue (msg :: requests)) :
    Updating (queue ++ [⟨.request kind, some msg⟩]) requests := by
  obtain ⟨queued, listed, isUpdate⟩ | ⟨other, listed, isUpdate⟩ := updating
  · exact .inl ⟨queued, List.mem_append_left _ listed, isUpdate⟩
  · cases listed with
    | head =>
      refine .inl ⟨⟨.request kind, some msg⟩, List.mem_append_right _ (.head _), ?_⟩
      rw [carries.ccRequestType] at isUpdate
      exact congrArg CcServerEvent.request ((typeOf_update kind).1 (Option.some.inj isUpdate))
    | tail _ listed => exact .inr ⟨other, listed, isUpdate⟩

theorem Matched.deliverRequest (matched : Matched exchange) :
    Matched (exchange.step .deliverRequest) := by
  rw [step]
  split
  · exact matched
  · rename_i msg requests isRequests
    obtain ⟨kind, carries⟩ := matched.requests msg (isRequests ▸ .head _)
    obtain ⟨ccrData, received⟩ := rxRequest_carries exchange.server carries
    rw [received]
    have unsent : exchange.answers ++ exchange.server.sent.reverse = exchange.answers := by
      rw [matched.serverSent, List.reverse_nil, List.append_nil]
    constructor
    · exact matched.clientSent
    · rfl
    · exact matched.events
    · intro other listed
      exact matched.requests other (isRequests ▸ List.mem_cons_of_mem _ listed)
    · exact matched.rests
    · exact matched.client
    · intro isOpen
      have server := matched.server isOpen
      rw [isRequests] at server
      apply server.imp_right
      dsimp only [withServer]
      rw [unsent]
      apply Or.imp
      · exact fun closing => closing.deliver carries
      · apply Or.imp_right
        exact fun waits => ⟨waits.1, waits.2.deliver carries⟩

theorem answerEvent_mem (kind : CcRequest) : CcClient.answerEvent kind ∈ answerEvents := by
  cases kind <;> decide

/-- The event of an answer that arrives. -/
theorem rxAnswer_eq (client : CcClient) (msg : Cca) : ∃ ccaData more,
    client.rxAnswer msg = { client with ccaData := ccaData, queue := client.queue ++ more } ∧
      more ⊆ answerEvents ∧ (Raises client msg → more ≠ []) := by
  refine ⟨client.ccaData.parseRawToApp msg, ?_⟩
  have none : client.queue = client.queue ++ [] := (List.append_nil _).symm
  rw [CcClient.rxAnswer]
  split
  · rename_i isSet
    split
    · rename_i noKind
      refine ⟨[], by rw [← none], List.nil_subset _, ?_⟩
      intro ⟨type, isType, isKind⟩
      apply absurd _ isKind
      rw [← noKind, CcaData.parseRawToApp, Option.mem_def.1 isType]
      rfl
    · rename_i kind _
      refine ⟨[CcClient.answerEvent kind], rfl, ?_, fun _ => List.cons_ne_nil _ _⟩
      exact List.cons_subset.2 ⟨answerEvent_mem kind, List.nil_subset _⟩
  · rename_i notSet
    refine ⟨[], by rw [← none], List.nil_subset _, ?_⟩
    intro ⟨type, isType, _⟩
    apply absurd _ notSet
    rw [CcaData.parseRawToApp, Option.mem_def.1 isType]
    rfl

theorem answerEvents_subset : answerEvents ⊆ clientEvents := List.subset_append_left _ _

theorem Matched.deliverAnswer (matched : Matched exchange) (keeps : Keeps .deliverAnswer exchange) :
    Matched (exchange.step .deliverAnswer) := by
  rw [step]
  split
  · exact matched
  · rename_i msg answers isAnswers
    obtain ⟨ccaData, more, received, isAnswer, raises⟩ := rxAnswer_eq exchange.client msg
    rw [received]
    have unsent : exchange.requests ++ exchange.client.sent.reverse = exchange.requests := by
      rw [matched.clientSent, List.reverse_nil, List.append_nil]
    constructor
    · rfl
    · exact matched.serverSent
    · intro event listed
      apply (List.mem_append.1 listed).elim (matched.events event)
      exact fun isMore => answerEvents_subset (isAnswer isMore)
    · dsimp only [withClient]
      rw [unsent]
      exact matched.requests
    · exact matched.rests
    · intro isOpen
      apply (matched.client isOpen).imp_right
      exact fun notEmpty => List.append_ne_nil_of_left_ne_nil notEmpty _
    · intro isOpen
      dsimp only [withClient]
      rw [unsent]
      obtain isOpen' | closing | ⟨pending, _⟩ | ⟨pending, updating⟩ := matched.server isOpen
      · exact .inl isOpen'
      · exact .inr (.inl closing)
      · apply (keeps msg answers isAnswers isOpen pending).elim (fun closing => .inr (.inl closing))
        intro isRaised
        obtain ⟨event, listed⟩ := List.exists_mem_of_ne_nil _ (raises isRaised)
        refine .inr (.inr (.inl ⟨pending, .inl ⟨event, ?_, isAnswer listed⟩⟩))
        exact List.mem_append_right _ listed
      · exact .inr (.inr (.inr ⟨pending, updating⟩))

/-! Serving the server. -/

section

variable {verdicts : CcVerdicts} {session : CcServer}

/-- An event after which the server is open. -/
theorem served_opens {served : CcServerEvent} (rests : session.Rests)
    (isOpen : (CcServer.event verdicts served session).state = .stOpen) :
    (session.state = .stOpen ∧ served = .request .update ∧ verdicts.Accepts .update) ∨
      (session.state = .stIdle ∧ served = .request .initial ∧ verdicts.Accepts .initial) := by
  by_cases expected : CcServer.Expected session.state served
  · cases expected with
    | tccExpired wasOpen =>
      rw [CcServer.event_tccExpired wasOpen] at isOpen
      cases isOpen
    | @request kind next isServed =>
      rw [CcServer.event_request rfl isServed] at isOpen
      split at isOpen
      · rename_i accepts
        rw [CcServer.state_answerAccepted] at isOpen
        dsimp only at isOpen
        generalize session.state = state at isServed
        cases isServed with
        | initial => exact .inr ⟨rfl, rfl, accepts⟩
        | update => exact .inl ⟨rfl, rfl, accepts⟩
        | _ => cases isOpen
      · rw [CcServer.state_unsuccessfulAnswer] at isOpen
        cases isOpen
  · rw [CcServer.event_unexpected rests expected] at isOpen
    cases isOpen

theorem served_update (isOpen : session.state = .stOpen) (accepts : verdicts.Accepts .update) :
    (CcServer.event verdicts (.request .update) session).state = .stOpen := by
  rw [CcServer.event_request isOpen .update, if_pos accepts, CcServer.state_answerAccepted]

/-- The server answers what it opens for, where `InitialAnswer` lets it. -/
theorem sent_initial (isIdle : session.state = .stIdle) (accepts : verdicts.Accepts .initial)
    (answers : verdicts.initialAnswer = true) :
    (CcServer.event verdicts (.request .initial) session).sent ≠ [] := by
  rw [CcServer.event_request isIdle .initial, if_pos accepts, CcServer.answerAccepted,
    if_neg (by decide), CcServer.successfulAnswer, if_pos answers]
  exact List.cons_ne_nil _ _

theorem sent_update (isOpen : session.state = .stOpen) (accepts : verdicts.Accepts .update) :
    (CcServer.event verdicts (.request .update) session).sent ≠ [] := by
  rw [CcServer.event_request isOpen .update, if_pos accepts, CcServer.answerAccepted,
    if_neg (by decide), CcServer.successfulAnswer]
  exact List.cons_ne_nil _ _

end

/-- An update that is served makes no request wait longer or less. -/
theorem Closing.served {queued : CcQueued} (closing : Closing (queued :: queue) requests)
    (isUpdate : queued.event = .request .update) :
    Closing queue requests := by
  apply closing.imp_left
  intro ⟨other, listed, isOther⟩
  cases listed with
  | head => exact absurd isUpdate isOther
  | tail _ listed => exact ⟨other, listed, isOther⟩

theorem Matched.serveServer (matched : Matched exchange) {verdicts : CcVerdicts}
    (keeps : Keeps (.serveServer verdicts) exchange) :
    Matched (exchange.step (.serveServer verdicts)) := by
  rw [step, CcServer.serve]
  split
  · rw [matched.withServer_self]
    exact matched
  · rename_i queued queue isQueue
    have serves := keeps queued queue isQueue
    let session := { exchange.server with queue := queue }
    have rests : session.Rests := matched.rests
    have sameQueue : (CcServer.event verdicts queued.event session).queue = queue :=
      CcServer.queue_event rests queued.event
    -- An answer is on its way after a request that the server opens for, or stays open for.
    have answering : (CcServer.event verdicts queued.event session).sent ≠ [] →
        Answering exchange.client.queue
          (exchange.answers ++ (CcServer.event verdicts queued.event session).sent.reverse) := by
      intro isSent
      apply Or.inr
      apply List.append_ne_nil_of_right_ne_nil
      exact mt List.reverse_eq_nil_iff.1 isSent
    constructor
    · exact matched.clientSent
    · rfl
    · exact matched.events
    · exact matched.requests
    · exact rests.event queued.event
    · intro clientOpen
      by_cases stays : exchange.server.state = .stOpen
      · by_cases isUpdate : queued.event = .request .update ∧ verdicts.Accepts .update
        · apply Or.inl
          dsimp only [withServer]
          rw [isUpdate.1]
          exact served_update stays isUpdate.2
        · exact .inr ((serves.stays stays isUpdate).resolve_left fun notOpen => notOpen clientOpen)
      · exact .inr ((matched.client clientOpen).resolve_left stays)
    · intro isOpen
      dsimp only [withServer] at isOpen ⊢
      rw [sameQueue]
      obtain ⟨wasOpen, isUpdate, accepts⟩ | ⟨wasIdle, isInitial, accepts⟩ :=
        served_opens rests isOpen
      · have isSent : (CcServer.event verdicts queued.event session).sent ≠ [] := by
          rw [isUpdate]
          exact sent_update wasOpen accepts
        have server := matched.server wasOpen
        rw [isQueue] at server
        obtain clientOpen | closing | ⟨pending, _⟩ | ⟨pending, _⟩ := server
        · exact .inl clientOpen
        · exact .inr (.inl (closing.served isUpdate))
        · exact .inr (.inr (.inl ⟨pending, answering isSent⟩))
        · exact .inr (.inr (.inl ⟨.inr pending, answering isSent⟩))
      · obtain clientOpen | closing | ⟨pending, answers⟩ := serves.opens wasIdle isInitial accepts
        · exact .inl clientOpen
        · exact .inr (.inl closing)
        · refine .inr (.inr (.inl ⟨pending, answering ?_⟩))
          rw [isInitial]
          exact sent_initial wasIdle accepts answers

/-! Serving the client. -/

/-- What sends is an event of the application. -/
theorem sentFor_of_sends (state : CcClientState) (event : CcClientEvent)
    (sends : CcClient.sends ((CcClient.row state event).bind Prod.snd) = true) :
    ∃ kind, sentFor event = some kind := by
  have decided : (!CcClient.sends ((CcClient.row state event).bind Prod.snd) ||
      (sentFor event).isSome) = true := by
    cases state <;> cases event <;> rfl
  rw [sends] at decided
  exact Option.isSome_iff_exists.1 decided

/-- The state after an event that comes to the client. -/
def nextState (state : CcClientState) (event : CcClientEvent) : CcClientState :=
  ((CcClient.row state event).map Prod.fst).getD state

theorem opens_of_nextState (state : CcClientState) (event : CcClientEvent)
    (isClient : event ∈ clientEvents) (isOpen : nextState state event = .stOpen) :
    Opens state event := by
  have decided : (!decide (event ∈ clientEvents) || !decide (nextState state event = .stOpen) ||
      decide (state = .stPendingI ∧ event = .initialAnswer) ||
      decide (state = .stPendingU ∧ event = .updateAnswer)) = true := by
    cases state <;> cases event <;> rfl
  rw [decide_eq_true isClient, decide_eq_true isOpen] at decided
  rw [Bool.or_eq_true, decide_eq_true_iff, Bool.or_eq_true, decide_eq_true_iff] at decided
  exact decided.imp_left fun first => first.resolve_left (by decide)

/-- What was not an answer leaves the answers on their way. -/
theorem Answering.served {event : CcClientEvent} {queue : List CcClientEvent} {answers : List Cca}
    (answering : Answering (event :: queue) answers) (isOther : event ∉ answerEvents) :
    Answering queue answers := by
  apply answering.imp_left
  intro ⟨other, listed, isAnswer⟩
  cases listed with
  | head => exact absurd isAnswer isOther
  | tail _ listed => exact ⟨other, listed, isAnswer⟩

theorem handled_subset : [CcClientEvent.terminateService, .grantService] ⊆ clientEvents := by
  decide

theorem Matched.serveClient (matched : Matched exchange) {number failureHandling : UInt32}
    (keeps : Keeps (.serveClient number failureHandling) exchange) :
    Matched (exchange.step (.serveClient number failureHandling)) := by
  rw [step, CcClient.serve]
  split
  · rw [matched.withClient_self]
    exact matched
  · rename_i event queue isQueue
    have serves := keeps event queue isQueue
    let callbacks := callbacksFor number failureHandling exchange.client
    let session := { exchange.client with queue := queue }
    have isClient : event ∈ clientEvents := matched.events event (isQueue ▸ .head _)
    obtain ⟨more, newQueue, isMore⟩ := @CcClient.queue_event callbacks session event
    have newState : (CcClient.event callbacks session event).state =
        nextState exchange.client.state event := CcClient.state_event event
    have newSent := @CcClient.sent_event callbacks session event
    have sentOnly : (CcClient.event callbacks session event).sent =
        if CcClient.sends ((CcClient.row exchange.client.state event).bind Prod.snd) then
          [(callbacks.fillRequest exchange.client.ccrData).parseAppToRaw] else [] := by
      rw [newSent, show session.sent = [] from matched.clientSent]
    have filled {kind : CcRequest} (isSent : sentFor event = some kind) :
        callbacks.fillRequest = fillFor kind number := by
      funext own
      dsimp only [callbacks, callbacksFor]
      rw [isQueue]
      dsimp only [List.head?_cons, Option.bind_some]
      rw [isSent]
    have grows : queue ⊆ (CcClient.event callbacks session event).queue := by
      rw [newQueue]
      exact List.subset_append_left _ _
    change Matched (exchange.withClient (CcClient.event callbacks session event))
    generalize CcClient.event callbacks session event = next at *
    constructor
    · rfl
    · exact matched.serverSent
    · intro other listed
      dsimp only [withClient] at listed
      rw [newQueue] at listed
      apply (List.mem_append.1 listed).elim
      · exact fun rest => matched.events other (isQueue ▸ List.mem_cons_of_mem _ rest)
      · exact fun added => handled_subset (isMore added)
    · dsimp only [withClient]
      rw [sentOnly]
      intro msg listed
      apply (List.mem_append.1 listed).elim (matched.requests msg)
      intro isSent
      split at isSent
      · rename_i sends
        obtain ⟨kind, isKind⟩ := sentFor_of_sends _ _ sends
        rw [List.mem_singleton.1 (List.mem_reverse.1 isSent), filled isKind]
        exact ⟨kind, carries_fillFor kind number _⟩
      · cases isSent
    · exact matched.rests
    · intro isOpen
      dsimp only [withClient] at isOpen ⊢
      rw [newState] at isOpen
      apply (serves.opens (opens_of_nextState _ _ isClient isOpen)).imp_right
      intro notEmpty isEmpty
      rw [isEmpty] at grows
      exact notEmpty (List.eq_nil_of_subset_nil grows)
    · intro isOpen
      have server := matched.server isOpen
      dsimp only [withClient] at isOpen ⊢
      rw [Pending, newState]
      obtain closing | follows := serves.stays isOpen
      · exact .inr (.inl (closing.mono (List.Subset.refl _) (List.subset_append_left _ _)))
      · rw [isQueue] at server
        -- What the server counts on is still to come after an event that is no answer.
        have still (notOpen : exchange.client.state ≠ .stOpen) (isOther : event ∉ answerEvents) :
            Closing exchange.server.queue exchange.requests ∨
              (Pending exchange.client ∧
                Answering next.queue exchange.answers) ∨
              (exchange.client.state = .stPendingU ∧
                Updating exchange.server.queue exchange.requests) := by
          apply (server.resolve_left notOpen).imp_right
          apply Or.imp_left
          exact fun waits => ⟨waits.1, (waits.2.served isOther).mono grows id⟩
        have sent : exchange.requests ⊆ exchange.requests ++
            next.sent.reverse :=
          List.subset_append_left _ _
        have terminates (isState : exchange.client.state = .stOpen)
            (isTermination : event = .terminationRequest) :
            Closing exchange.server.queue (exchange.requests ++
              next.sent.reverse) := by
          have carries := carries_fillFor .termination number exchange.client.ccrData
          apply Or.inr
          refine ⟨(fillFor .termination number exchange.client.ccrData).parseAppToRaw, ?_, ?_⟩
          · subst isTermination
            rw [sentOnly, isState, filled rfl]
            exact List.mem_append_right _ (.head _)
          · rw [carries.ccRequestType]
            decide
        have pending : Pending exchange.client ↔
          exchange.client.state = .stPendingI ∨ exchange.client.state = .stPendingU := Iff.rfl
        rw [pending] at still
        generalize exchange.client.state = state at follows still terminates
        cases follows with
        | initialAnswer => exact .inl rfl
        | updateAnswer => exact .inl rfl
        | termination => exact .inr (.inl (terminates rfl rfl))
        | update unanswered =>
          apply Or.inr
          apply Or.inr
          apply unanswered.symm.imp
          · intro answering
            rw [isQueue] at answering
            exact ⟨.inr rfl, (answering.served (by decide)).mono grows id⟩
          · exact fun updating => ⟨rfl, updating.mono (List.Subset.refl _) sent⟩
        | _ =>
          apply Or.inr
          apply (still (by decide) (by decide)).imp
          · exact fun closing => closing.mono (List.Subset.refl _) sent
          · apply Or.imp_right
            exact fun waits => ⟨waits.1, waits.2.mono (List.Subset.refl _) sent⟩

theorem Matched.step (matched : Matched exchange) {input : CcExchangeInput}
    (keeps : Keeps input exchange) : Matched (exchange.step input) := by
  cases input with
  | request kind number => exact matched.request kind number
  | txTimeout => exact matched.txTimeout
  | tccTimeout => exact matched.tccTimeout
  | deliverRequest => exact matched.deliverRequest
  | deliverAnswer => exact matched.deliverAnswer keeps
  | serveClient number failureHandling => exact matched.serveClient keeps
  | serveServer verdicts => exact matched.serveServer keeps

theorem matched_initial : Matched initial where
  clientSent := rfl
  serverSent := rfl
  events := by
    intro event listed
    cases listed
  requests := by
    intro msg listed
    cases listed
  rests := CcServer.rests_initial
  client := by
    intro isOpen
    cases isOpen
  server := by
    intro isOpen
    cases isOpen

/-- The exchanges after steps that keep the agreement. -/
abbrev Kept : CcExchange → Prop :=
  Reached (fun exchange => exchange = initial) (fun exchange input next => next = exchange.step input)
    fun exchange input => Keeps input exchange

theorem Kept.step (kept : Kept exchange) (input : CcExchangeInput)
    (keeps : Keeps input exchange) : Kept (exchange.step input) :=
  kept.after input rfl keeps

theorem Kept.matched (kept : Kept exchange) : Matched exchange := by
  apply kept.invariant
  · intro exchange isInitial
    rw [isInitial]
    exact matched_initial
  · intro exchange input next matched isNext keeps
    rw [isNext]
    exact matched.step keeps

/-- The sessions agree in every quiet state of a run whose steps all keep the agreement. -/
theorem Kept.agrees (kept : Kept exchange) (quiet : Quiet exchange) : Agree exchange :=
  kept.matched.agree quiet

/-- An initial request that goes to the server, and its answer back. -/
def initialRound (verdicts : CcVerdicts) : List CcExchangeInput :=
  [.request .initial 0, .serveClient 0 0, .deliverRequest, .serveServer verdicts, .deliverAnswer,
    .serveClient 0 0]

/-- An initial request that is granted opens both sessions. -/
theorem agrees_granted : (initial.run (initialRound {})).client.state = .stOpen ∧
    Agree (initial.run (initialRound {})) := by
  refine ⟨by decide, Kept.agrees ?_ ⟨by decide, by decide, by decide, by decide⟩⟩
  have asked : Kept (initial.run ((initialRound {}).take 1)) := by
    apply Kept.step (.start rfl) (.request .initial 0)
    trivial
  have sent : Kept (initial.run ((initialRound {}).take 2)) := by
    apply asked.step (.serveClient 0 0)
    intro event queue isQueue
    cases isQueue
    exact ⟨nofun, nofun⟩
  have received : Kept (initial.run ((initialRound {}).take 3)) := by
    apply sent.step .deliverRequest
    trivial
  have granted : Kept (initial.run ((initialRound {}).take 4)) := by
    apply received.step (.serveServer {})
    intro queued queue isQueue
    cases isQueue
    exact ⟨fun _ _ _ => .inr (.inr ⟨.inl (by decide), rfl⟩), nofun⟩
  have answered : Kept (initial.run ((initialRound {}).take 5)) := by
    apply granted.step .deliverAnswer
    intro msg answers isAnswers isOpen pending
    cases isAnswers
    exact .inr ⟨ccTypeInitialRequest, by decide, by decide⟩
  apply answered.step (.serveClient 0 0)
  intro event queue isQueue
  cases isQueue
  exact ⟨fun _ => .inl (by decide), fun _ => .inr .initialAnswer⟩

/-- The client serves under an initial request that was refused. -/
theorem refusedInitial_serves :
    let exchange := initial.run (initialRound { process := fun _ => false })
    Quiet exchange ∧ exchange.client.ccaData.resultCode.value = creditLimitReached ∧
      exchange.client.state = .stOpen ∧ exchange.server.state = .stIdle ∧ ¬Agree exchange := by
  refine ⟨⟨by decide, by decide, by decide, by decide⟩, by decide, by decide, by decide, ?_⟩
  intro agree
  exact absurd (agree.1 (by decide)) (by decide)

end CcExchange

end OpenDiameter.CreditControl
