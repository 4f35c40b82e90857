import OpenDiameter.Router.AnswerDelivery

/-!
Redirection: the application whose servers a redirect agent names, and what becomes of the
request when the answer of such an agent comes.
-/

namespace OpenDiameter.Router

open OpenDiameter.Foundation OpenDiameter.Parser

/-! The application of a request, as the routing and the redirection look for it. -/

/-- Where the header's application is found, a Vendor-Specific-Application-Id of the request is
complete and names no other application. -/
def GroupAgrees (route : RouteEntry) (msg : Msg) : Prop :=
  ∀ app grouped, route.lookup msg.hdr.appId 0 = some app →
    getGrouped msg.acl AvpName.vendorAppId = some grouped →
    ∃ vid, getUInt32 grouped AvpName.vendorId = some vid ∧
      ∀ value, getUInt32Of grouped AvpName.authAppId AvpName.acctAppId = some value →
        value = msg.hdr.appId ∧ vid = 0

section

variable {route : RouteEntry} {msg : Msg} {app : RouteApplication} {appId vendorId : UInt32}

theorem lookup_ids (found : route.lookup appId vendorId = some app) :
    app.vendorId = vendorId ∧ app.applicationId = appId := by
  have ids := List.find?_some found
  rw [Bool.and_eq_true, beq_iff_eq, beq_iff_eq] at ids
  exact ids

/-- Without an application of the header both searches go the same way. -/
theorem application_of_none (noApp : route.lookup msg.hdr.appId 0 = none) :
    (RedirectAgent.application route msg).join = route.applicationOf msg := by
  rw [RedirectAgent.application, RouteEntry.applicationOf, noApp]
  cases getUInt32Of msg.acl AvpName.authAppId AvpName.acctAppId with
  | some id => rfl
  | none =>
    cases getGrouped msg.acl AvpName.vendorAppId with
    | none => rfl
    | some grouped =>
      dsimp only
      cases getUInt32 grouped AvpName.vendorId with
      | none => rfl
      | some vid =>
        cases getUInt32Of grouped AvpName.authAppId AvpName.acctAppId with
        | none => rfl
        | some value => rfl

/-- With one, the redirect agent looks at the Vendor-Specific-Application-Id all the same. -/
theorem application_of_some (isApp : route.lookup msg.hdr.appId 0 = some app) :
    RedirectAgent.application route msg =
      match getGrouped msg.acl AvpName.vendorAppId with
      | none => some (some app)
      | some grouped =>
        match getUInt32 grouped AvpName.vendorId with
        | none => none
        | some vid =>
          match getUInt32Of grouped AvpName.authAppId AvpName.acctAppId with
          | none => some (some app)
          | some value => some (route.lookup value vid) := by
  cases isId : getUInt32Of msg.acl AvpName.authAppId AvpName.acctAppId with
  | none => simp only [RedirectAgent.application, isApp, isId] <;> rfl
  | some id => simp only [RedirectAgent.application, isApp, isId] <;> rfl

/-- The application that is looked up is the header's one under the header's ids only. -/
theorem lookup_eq_iff (isApp : route.lookup msg.hdr.appId 0 = some app) :
    route.lookup appId vendorId = some app ↔ appId = msg.hdr.appId ∧ vendorId = 0 := by
  constructor
  · intro found
    have ids := lookup_ids isApp
    have otherIds := lookup_ids found
    exact ⟨otherIds.2.symm.trans ids.2, otherIds.1.symm.trans ids.1⟩
  · rintro ⟨rfl, rfl⟩
    exact isApp

/-- The redirect agent finds the application of the routing exactly when a
Vendor-Specific-Application-Id agrees with the header. -/
theorem application_same_iff (route : RouteEntry) (msg : Msg) :
    (RedirectAgent.application route msg).join = route.applicationOf msg ↔
      GroupAgrees route msg := by
  cases isApp : route.lookup msg.hdr.appId 0 with
  | none =>
    refine iff_of_true (application_of_none isApp) fun app grouped isSome => ?_
    exact nomatch isApp.symm.trans isSome
  | some app =>
    have routed : route.applicationOf msg = some app := by
      rw [RouteEntry.applicationOf, isApp]
    have agrees_iff : GroupAgrees route msg ↔
        ∀ grouped, getGrouped msg.acl AvpName.vendorAppId = some grouped →
          ∃ vid, getUInt32 grouped AvpName.vendorId = some vid ∧
            ∀ value, getUInt32Of grouped AvpName.authAppId AvpName.acctAppId = some value →
              value = msg.hdr.appId ∧ vid = 0 :=
      ⟨fun agrees grouped => agrees app grouped isApp, fun agrees _ grouped _ => agrees grouped⟩
    rw [routed, application_of_some isApp, agrees_iff]
    cases isGroup : getGrouped msg.acl AvpName.vendorAppId with
    | none => exact iff_of_true rfl fun grouped isSome => nomatch isSome
    | some grouped =>
      dsimp only
      cases isVendor : getUInt32 grouped AvpName.vendorId with
      | none =>
        refine iff_of_false (fun same => nomatch same) fun agrees => ?_
        obtain ⟨vid, isSome, -⟩ := agrees grouped rfl
        exact nomatch isVendor.symm.trans isSome
      | some vid =>
        cases isId : getUInt32Of grouped AvpName.authAppId AvpName.acctAppId with
        | none =>
          refine iff_of_true rfl fun other same => ?_
          obtain rfl := Option.some.inj same
          exact ⟨vid, isVendor, fun value isSome => nomatch isId.symm.trans isSome⟩
        | some value =>
          show route.lookup value vid = some app ↔ _
          rw [lookup_eq_iff isApp]
          constructor
          · intro same other isOther
            obtain rfl := Option.some.inj isOther
            refine ⟨vid, isVendor, fun otherValue isSome => ?_⟩
            rw [isId, Option.some.injEq] at isSome
            exact isSome ▸ same
          · intro agrees
            obtain ⟨otherVid, isSome, same⟩ := agrees grouped rfl
            rw [isVendor, Option.some.injEq] at isSome
            exact isSome ▸ same value isId

end

namespace Agent

/-- A request of an application of the header, with an application of a vendor. -/
def ofVendor : Msg :=
  request [avpOf AvpName.vendorAppId .grouped
    (.grouped [uint32Avp AvpName.vendorId 10415, uint32Avp AvpName.authAppId 9])]

end Agent

open Agent in
/-- The routing takes the application of the header, and the redirection takes none. -/
theorem vendor_application_overrides :
    (RedirectAgent.application (Agent.route [114] [115, 49]) ofVendor).join ≠
      (Agent.route [114] [115, 49]).applicationOf ofVendor := fun same =>
  nomatch (show none = some _ from same)

/-! The answer of a redirect agent. -/

section

variable {Peer : Type} {env : Environment Peer} {router : MsgRouter Peer} {msg : Msg}
  {node : DeliveryNode} {req : PendingReq Peer}

/-- The first node with an entry for the answer, and the entry. -/
def MsgRouter.entryOf (router : MsgRouter Peer) (msg : Msg) :
    Option (DeliveryNode × PendingReq Peer) :=
  [.dcLocal, .dcForward, .dcRouted].findSome? fun node =>
    (router.pendingReq node msg.hdr.hh).map fun req => (node, req)

/-- The stored request goes to another host, or the answer to the source of the request. -/
inductive Redirected (req : PendingReq Peer) (msg : Msg) (served : Served Peer) : Prop where
  | resent (request : Msg) (fqdn : Octets) (peer : Peer) (stored : req.reqMessage = some request)
      (sent : served.deliveries =
        [.transmit peer (some { request with acl := setDestHost request.acl fqdn })])
  | passed (delivery : Delivery Peer) (delivered : delivery ∈ served.deliveries)
      (toSource : ToSource ⟨msg.object, req.source, req.origHH⟩ msg delivery)

/-- Where the answer with a redirect indication belongs to a request, the router follows no null
pointer and does one of the two. -/
def RedirectsSafely (env : Environment Peer) (router : MsgRouter Peer) (msg : Msg) : Prop :=
  msg.isRedirected = true → ∀ node req, router.entryOf msg = some (node, req) →
    ∃ served, answerMsg env router msg = .ok served ∧ Redirected req msg served

/-- The request was stored, and the first redirect host that is an open peer can be sent to. -/
def RedirectFits (env : Environment Peer) (router : MsgRouter Peer) (msg : Msg) : Prop :=
  msg.isRedirected = true → ∀ node req, router.entryOf msg = some (node, req) →
    req.reqMessage ≠ none ∧
      ∃ uri peer, RedirectAgent.redirectPeer env (redirectHosts msg.acl) = some (uri, peer) ∧
        env.running peer = true

theorem route_entry {nodes : List DeliveryNode}
    (found : nodes.findSome? (fun node =>
      (router.pendingReq node msg.hdr.hh).map fun req => (node, req)) = some (node, req)) :
    route env router msg nodes =
      node.process env (router.deleteQueuedMessage node msg.hdr.hh) req.reqMessage req.source
        (restored msg req.origHH) := by
  induction nodes with
  | nil => exact nomatch found
  | cons other nodes induction =>
    rw [List.findSome?_cons] at found
    cases isReq : router.pendingReq other msg.hdr.hh with
    | some entry =>
      rw [isReq] at found
      obtain ⟨rfl, rfl⟩ := Prod.mk.inj (Option.some.inj found)
      rw [route, lookup_eq_some isReq]
    | none =>
      rw [isReq] at found
      rw [route, lookup_eq_none isReq]
      exact induction found

/-- The Redirect-Host AVPs stay when the Result-Code is taken out. -/
theorem redirectHosts_delAvp (acl : AvpContainerList) :
    redirectHosts (delAvp acl AvpName.resultCode) = redirectHosts acl := by
  have kept : (delAvp acl AvpName.resultCode).search AvpName.redirectHost =
      acl.search AvpName.redirectHost := by
    rw [delAvp]
    induction acl with
    | nil => rfl
    | cons container acl induction =>
      rw [List.eraseP_cons, AvpContainerList.search, AvpContainerList.search, List.find?_cons]
      cases isCode : container.avpName == AvpName.resultCode with
      | true =>
        have isOther : (container.avpName == AvpName.redirectHost) = false := by
          rw [eq_of_beq isCode]
          decide
        rw [isOther]
        rfl
      | false =>
        rw [cond_false, List.find?_cons]
        split
        · rfl
        · exact induction
  rw [redirectHosts, kept, redirectHosts]

theorem answer_redirected (redirected : msg.isRedirected = true)
    (found : router.entryOf msg = some (node, req)) :
    answerMsg env router msg =
      RedirectAgent.answer env (router.deleteQueuedMessage node msg.hdr.hh)
        (restored msg req.origHH) req.reqMessage := by
  have same : (restored msg req.origHH).isRedirected = true := redirected
  rw [answerMsg, route_entry found]
  cases node with
  | dcLocal => exact if_pos same
  | dcForward => exact if_pos same
  | dcRouted => exact if_pos same

theorem redirectPeer_isOpen {uris : List DiameterUri} {uri : DiameterUri} {peer : Peer}
    (found : RedirectAgent.redirectPeer env uris = some (uri, peer)) : env.isOpen peer = true := by
  obtain ⟨other, -, isPeer⟩ := List.exists_of_findSome?_eq_some found
  obtain ⟨openPeer, isOpen, same⟩ := Option.map_eq_some_iff.1 isPeer
  obtain ⟨-, rfl⟩ := Prod.mk.inj same
  exact (Option.filter_eq_some_iff.1 isOpen).2

/-- The redirect agent does something with an answer exactly when it sends the stored request. -/
theorem redirects_iff (uriOfAnswer : Msg) (p : Option Msg) (isStored : req.reqMessage = p) :
    (∃ served, RedirectAgent.answer env router uriOfAnswer p = .ok served ∧
        Redirected req msg served) ↔
      p ≠ none ∧ ∃ uri peer,
        RedirectAgent.redirectPeer env (redirectHosts uriOfAnswer.acl) = some (uri, peer) ∧
          env.running peer = true := by
  have nothing (router : MsgRouter Peer) (rcode : Int) :
      ¬Redirected req msg ⟨router, [], rcode⟩ := by
    intro redirects
    cases redirects with
    | resent request fqdn peer stored sent => cases sent
    | passed delivery delivered toSource => cases delivered
  rw [RedirectAgent.answer, redirectHosts_delAvp]
  cases isPeer : RedirectAgent.redirectPeer env (redirectHosts uriOfAnswer.acl) with
  | none =>
    refine iff_of_false ?_ fun fits => ?_
    · rintro ⟨served, returned, redirects⟩
      rw [← Except.ok.inj returned] at redirects
      exact nothing _ _ redirects
    · obtain ⟨uri, peer, isSome, -⟩ := fits.2
      cases isSome
  | some found =>
    obtain ⟨uri, peer⟩ := found
    cases p with
    | none =>
      refine iff_of_false ?_ fun fits => fits.1 rfl
      rintro ⟨served, returned, -⟩
      cases returned
    | some p =>
      have isOpen := redirectPeer_isOpen isPeer
      cases isRunning : env.running peer with
      | false =>
        refine iff_of_false ?_ fun fits => ?_
        · rintro ⟨served, returned, redirects⟩
          simp only [send, isRunning, if_true] at returned
          rw [← Except.ok.inj returned] at redirects
          exact nothing _ _ redirects
        · obtain ⟨otherUri, other, isSome, running⟩ := fits.2
          obtain ⟨-, rfl⟩ := Prod.mk.inj (Option.some.inj isSome)
          cases isRunning.symm.trans running
      | true =>
        refine iff_of_true ?_ ⟨by rintro ⟨⟩, uri, peer, rfl, isRunning⟩
        refine ⟨⟨router, [.transmit peer
          (some { p with acl := setDestHost p.acl uri.fqdn })], 0⟩, ?_, ?_⟩
        · simp only [send, isRunning, isOpen]
          rfl
        · exact .resent p uri.fqdn peer isStored rfl

/-- An answer with a redirect indication is treated safely exactly when its request was stored
and a redirect host can be sent to. -/
theorem answer_redirects_iff (env : Environment Peer) (router : MsgRouter Peer) (msg : Msg) :
    RedirectsSafely env router msg ↔ RedirectFits env router msg := by
  have step (redirected : msg.isRedirected = true) {node : DeliveryNode} {req : PendingReq Peer}
      (found : router.entryOf msg = some (node, req)) :
      (∃ served, answerMsg env router msg = .ok served ∧ Redirected req msg served) ↔
        req.reqMessage ≠ none ∧
          ∃ uri peer, RedirectAgent.redirectPeer env (redirectHosts msg.acl) = some (uri, peer) ∧
            env.running peer = true := by
    rw [answer_redirected redirected found]
    exact redirects_iff (restored msg req.origHH) req.reqMessage rfl
  constructor
  · exact fun safely redirected node req found =>
      (step redirected found).1 (safely redirected node req found)
  · exact fun fits redirected node req found =>
      (step redirected found).2 (fits redirected node req found)

end

namespace Agent

/-- An answer to the request under the id, with the redirect host of the name given. -/
def redirectTo (hh : HopId) (fqdn : Octets) : Msg where
  object := 9
  hdr := ⟨⟨false, true, true, false⟩, 272, 4, hh, 7⟩
  acl := [uint32Avp AvpName.resultCode ResultCode.redirectIndication,
    avpOf AvpName.redirectHost .diamUri (.uri ⟨fqdn, 0, 0, 0, 0⟩)]

theorem one_run : Run config (fun _ _ _ => True) one :=
  Run.serve .initial env (.request (some 1) (forHandler 1)) ⟨rfl, by simp [World.initial]⟩
    trivial rfl

end Agent

open Agent in
/-- The local handler has a request, which is not stored: an answer with an open redirect host
makes the router follow a null pointer. An answer to a request that was sent on, with a host that
is no peer, goes nowhere. -/
theorem redirects_without_request :
    (Run config (fun _ _ _ => True) one ∧
        one.Enabled (.answer ⟨none, 5, 1⟩ (redirectTo 5 [115, 50])) ∧
        answerMsg env one.router (redirectTo 5 [115, 50]) = .error .crashed ∧
        ¬RedirectsSafely env one.router (redirectTo 5 [115, 50])) ∧
      Run config (Apart config) relayed ∧
        relayed.Enabled (.answer ⟨some 1, 42, 0⟩ (redirectTo 42 [104])) ∧
        ¬RedirectsSafely env relayed.router (redirectTo 42 [104]) := by
  have crashes : answerMsg env one.router (redirectTo 5 [115, 50]) = .error .crashed := rfl
  refine ⟨⟨one_run, ⟨List.mem_cons_self, rfl, rfl⟩, crashes, fun safely => ?_⟩, relayed_run,
    ⟨List.mem_cons_self, rfl, rfl⟩, fun safely => ?_⟩
  · obtain ⟨served, returned, -⟩ := safely rfl .dcLocal _ rfl
    exact nomatch crashes.symm.trans returned
  · obtain ⟨served, returned, redirected⟩ := safely rfl .dcRouted _ rfl
    have nothing : served.deliveries = [] := by
      rw [← Except.ok.inj returned]
    cases redirected with
    | resent request fqdn peer stored sent => exact nomatch nothing.symm.trans sent
    | passed delivery delivered toSource =>
      rw [nothing] at delivered
      exact nomatch delivered

end OpenDiameter.Router
