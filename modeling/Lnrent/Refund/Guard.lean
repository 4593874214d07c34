/-
**No connection to a refused address.** A resolution fetches what a destination, redirects and a callback
name; the guard holds at each hop of both fetches.

* `embeddedIpv4_of_carries`, `accepted_of_carries` — **an IPv4 address is not smuggled in**;
* `Vetted` — a URL whose addresses were checked, and pinned;
* `follow_sends` — one fetch sends vetted requests, and so many at most;
* `Documented` — what the HTTP client promises of its direct connections;
* `Unproxied` — no proxy is set in the environment, which the resolver's client would use;
* `resolve_guarded` — **every connection goes to a checked address that its request was pinned to**.
-/

import Lnrent.Daemon.RefundResolver

namespace Lnrent.RefundResolver

open Net

/-! ### Embedded addresses -/

theorem inverted_twice (segment : BitVec 16) : segment ^^^ 0xffff ^^^ 0xffff = segment := by
  rw [BitVec.xor_assoc, BitVec.xor_self, BitVec.xor_zero]

/-- **Each transition form is recognised**, but for `::`. -/
theorem embeddedIpv4_of_carries {v6 : Ipv6Addr} {v4 : Ipv4Addr} (carries : Carries v6 v4)
    (specified : v6.isUnspecified = false) : embeddedIpv4 v6 = some v4 := by
  cases carries with
  | mapped v4 =>
      rw [embeddedIpv4, Ipv6Addr.toIpv4Mapped, if_pos ⟨rfl, rfl, rfl, rfl, rfl, rfl⟩,
        Ipv4Addr.ofSegments_high_low]
  | compatible v4 =>
      have some_ : v4.high ≠ 0 ∨ v4.low ≠ 0 := by
        by_contra none
        obtain ⟨high, low⟩ := not_or.mp none
        refine absurd specified ?_
        rw [not_not.mp high, not_not.mp low]
        decide
      rw [embeddedIpv4, Ipv6Addr.toIpv4Mapped, if_neg fun mapped => by
        exact absurd mapped.2.2.2.2.2 (by decide : ¬ (0 : BitVec 16) = 0xffff)]
      show (if _ then _ else _) = _
      rw [if_pos ⟨⟨rfl, rfl, rfl, rfl, rfl, rfl⟩, some_⟩, Ipv4Addr.ofSegments_high_low]
  | nat64 v4 => simp [embeddedIpv4, Ipv6Addr.toIpv4Mapped]
  | sixToFour v4 s3 s4 s5 s6 s7 => simp [embeddedIpv4, Ipv6Addr.toIpv4Mapped]
  | teredo v4 s2 s3 s4 s5 =>
      have inverted : Ipv4Addr.ofSegments (v4.high ^^^ 0xffff ^^^ 0xffff)
          (v4.low ^^^ 0xffff ^^^ 0xffff) = v4 := by
        rw [inverted_twice, inverted_twice, Ipv4Addr.ofSegments_high_low]
      refine Eq.trans ?_ (congrArg some inverted)
      simp [embeddedIpv4, Ipv6Addr.toIpv4Mapped]

theorem checkIp_ok {ip : IpAddr} :
    checkIp ip = .ok () ↔ match ip with
      | .v4 v4 => ipv4Blocked v4 = false
      | .v6 v6 => ipv6Blocked v6 = false := by
  cases ip with
  | v4 v4 =>
      show (if ipv4Blocked v4 = true then _ else _) = _ ↔ ipv4Blocked v4 = false
      cases ipv4Blocked v4 <;> simp
  | v6 v6 =>
      show (if ipv6Blocked v6 = true then _ else _) = _ ↔ ipv6Blocked v6 = false
      cases ipv6Blocked v6 <;> simp

/-- **An address is accepted only if the one it carries is.** -/
theorem accepted_of_carries {v6 : Ipv6Addr} {v4 : Ipv4Addr} (carries : Carries v6 v4)
    (accepted : checkIp (.v6 v6) = .ok ()) : checkIp (.v4 v4) = .ok () := by
  have open_ : ipv6Blocked v6 = false := checkIp_ok.mp accepted
  refine checkIp_ok.mpr ?_
  rw [ipv6Blocked] at open_
  by_cases special : (v6.isLoopback || v6.isUnspecified || v6.isMulticast) = true
  · rw [if_pos special] at open_
    cases open_
  rw [if_neg special] at open_
  have specified : v6.isUnspecified = false := by
    cases unspecified : v6.isUnspecified with
    | false => rfl
    | true => simp [unspecified] at special
  rw [embeddedIpv4_of_carries carries specified] at open_
  split at open_
  · cases open_
  · exact open_

/-! ### One hop -/

/-- **A URL that was checked**: its address, or all those its name is pinned to. -/
structure Vetted (request : Request) : Prop where
  https : request.url.scheme = "https"
  ipv4 : ∀ v4, request.url.host = some (.ipv4 v4) → checkIp (.v4 v4) = .ok ()
  ipv6 : ∀ v6, request.url.host = some (.ipv6 v6) → checkIp (.v6 v6) = .ok ()
  domain : ∀ name, request.url.host = some (.domain name) →
    ∃ addrs, request.resolveToAddrs = some (name, addrs) ∧
      ∀ addr ∈ addrs, checkIp addr.ip = .ok ()
  host : request.url.host ≠ none

section Hop

variable {crates : Crates} {network : Network} {raw : String} {url : Url}

/-- Only https is fetched. -/
theorem validateUrl_https (valid : validateUrl crates .new raw = .ok url) : url.scheme = "https" := by
  rw [validateUrl] at valid
  cases parsed : crates.parseUrl raw with
  | error error => rw [parsed] at valid; cases valid
  | ok other =>
      rw [parsed] at valid
      by_cases scheme : other.scheme = "https" ∨ Resolver.new.allowPrivateHosts = true ∧
        other.scheme = "http"
      · have same : other = url := by
          simp only [not_not.mpr scheme, if_false] at valid
          split at valid
          · cases valid
          · split at valid
            · cases valid
            · exact Except.ok.inj valid
          · exact Except.ok.inj valid
        exact same ▸ scheme.resolve_right fun bypass => by cases bypass.1
      · simp only [scheme, not_false_eq_true, if_true] at valid
        cases valid

theorem checkAddrs_ok {addrs : List SocketAddr} (checked : checkAddrs addrs = .ok ()) :
    ∀ addr ∈ addrs, checkIp addr.ip = .ok () := by
  induction addrs with
  | nil => exact fun _ member => absurd member List.not_mem_nil
  | cons first rest ih =>
      intro addr member
      rw [checkAddrs] at checked
      cases here : checkIp first.ip with
      | error error => rw [here] at checked; cases checked
      | ok done =>
          rw [here] at checked
          rcases List.mem_cons.mp member with rfl | later
          · exact here
          · exact ih checked addr later

/-- A name is pinned to checked addresses. -/
theorem checkLookup_ok {name : String} {answer : Except LookupFailure (List SocketAddr)}
    {pinned : Option (String × List SocketAddr)} (checked : checkLookup name answer = .ok pinned) :
    ∃ addrs, pinned = some (name, addrs) ∧ ∀ addr ∈ addrs, checkIp addr.ip = .ok () := by
  cases answer with
  | error failure => cases failure <;> cases checked
  | ok addrs =>
      rw [checkLookup] at checked
      by_cases none : addrs = []
      · rw [if_pos none] at checked
        cases checked
      rw [if_neg none] at checked
      cases passed : checkAddrs addrs with
      | error error => rw [passed] at checked; cases checked
      | ok done =>
          rw [passed] at checked
          exact ⟨addrs, (Except.ok.inj checked).symm, checkAddrs_ok passed⟩

/-- Validating sends nothing. -/
theorem validatedAddrs_requests (network : Network) (url : Url) (state : State) :
    (validatedAddrs network .new url state).2.requests = state.requests := by
  unfold validatedAddrs
  split
  · rfl
  · split <;> rfl

theorem ok_of_map {α : Type} {checked : Except ResolveError Unit} {value other : α}
    (passed : (checked.map fun _ => other) = .ok value) : checked = .ok () := by
  cases checked with
  | error error => cases passed
  | ok done => rfl

/-- **What validation lets through is vetted.** -/
theorem validatedAddrs_vetted {state : State} {pinned : Option (String × List SocketAddr)}
    (https : url.scheme = "https")
    (validated : (validatedAddrs network .new url state).1 = .ok pinned) : Vetted ⟨url, pinned⟩ := by
  unfold validatedAddrs at validated
  rw [if_neg (by decide : ¬ Resolver.new.allowPrivateHosts = true)] at validated
  cases host : url.host with
  | none => rw [host] at validated; cases validated
  | some which =>
      rw [host] at validated
      cases which with
      | domain name =>
          obtain ⟨addrs, rfl, checked⟩ := checkLookup_ok validated
          refine ⟨https, fun _ other => ?_, fun _ other => ?_, fun other same => ?_, ?_⟩
          · rw [host] at other; cases other
          · rw [host] at other; cases other
          · rw [host] at same
            cases same
            exact ⟨addrs, rfl, checked⟩
          · rw [host]; exact nofun
      | ipv4 v4 =>
          have checked := ok_of_map validated
          refine ⟨https, fun other same => ?_, fun _ other => ?_, fun _ other => ?_, ?_⟩
          · rw [host] at same
            cases same
            exact checked
          · rw [host] at other; cases other
          · rw [host] at other; cases other
          · rw [host]; exact nofun
      | ipv6 v6 =>
          have checked := ok_of_map validated
          refine ⟨https, fun _ other => ?_, fun other same => ?_, fun _ other => ?_, ?_⟩
          · rw [host] at other; cases other
          · rw [host] at same
            cases same
            exact checked
          · rw [host] at other; cases other
          · rw [host]; exact nofun

/-- A request is sent as it was validated, or not at all. -/
theorem send_requests (network : Network) (url : Url) (pinned : Option (String × List SocketAddr)) (state : State) :
    (send network url pinned state).2.requests = state.requests ∨
      (send network url pinned state).2.requests = state.requests ++ [⟨url, pinned⟩] := by
  unfold send
  split
  · exact .inl rfl
  · refine .inr ?_
    cases answer : network.send state.requests.length ⟨url, pinned⟩ <;> simp only [answer]

end Hop

/-! ### One fetch -/

section Fetch

/-- **So many requests at most were sent, all of them vetted.** -/
def Sends (bound : ℕ) (before after : State) : Prop :=
  ∃ requests, after.requests = before.requests ++ requests ∧ requests.length ≤ bound ∧
    ∀ request ∈ requests, Vetted request

theorem Sends.idle {bound : ℕ} {before after : State} (same : after.requests = before.requests) :
    Sends bound before after :=
  ⟨[], by rw [same, List.append_nil], Nat.zero_le _, fun _ member => absurd member List.not_mem_nil⟩

theorem Sends.mono {bound most : ℕ} {before after : State} (sends : Sends bound before after)
    (below : bound ≤ most) : Sends most before after := by
  obtain ⟨requests, sent, few, vetted⟩ := sends
  exact ⟨requests, sent, few.trans below, vetted⟩

theorem Sends.trans {first second : ℕ} {before middle after : State}
    (early : Sends first before middle) (late : Sends second middle after) :
    Sends (first + second) before after := by
  obtain ⟨requests, sent, few, vetted⟩ := early
  obtain ⟨others, later, more, also⟩ := late
  refine ⟨requests ++ others, by rw [later, sent, List.append_assoc], ?_, fun request member => ?_⟩
  · rw [List.length_append]
    omega
  · rcases List.mem_append.mp member with here | there
    · exact vetted request here
    · exact also request there

/-- **A hop sends at most one request.** -/
theorem hop_sends (crates : Crates) (network : Network) (current : String) (state : State) :
    Sends 1 state (hop crates network .new current state).2 := by
  rw [hop]
  cases valid : validateUrl crates .new current with
  | error error => exact .idle rfl
  | ok url =>
      have kept := validatedAddrs_requests network url state
      have checked : ∀ pinned, (validatedAddrs network .new url state).1 = .ok pinned →
          Vetted ⟨url, pinned⟩ := fun _ => validatedAddrs_vetted (validateUrl_https valid)
      rcases validated : validatedAddrs network .new url state with ⟨outcome, looked⟩
      rw [validated] at kept checked
      cases outcome with
      | error error =>
          simp only [validated]
          exact .idle kept
      | ok pinned =>
          have sends := send_requests network url pinned looked
          rcases answer : send network url pinned looked with ⟨response, sent⟩
          rw [answer, kept] at sends
          have sound : Sends 1 state sent := by
            rcases sends with none | one
            · exact .idle none
            · refine ⟨[⟨url, pinned⟩], one, le_rfl, fun request member => ?_⟩
              exact List.mem_singleton.mp member ▸ checked pinned rfl
          cases response <;> simpa only [validated, answer] using sound

/-- **A fetch sends at most one request more than it may still be redirected.** -/
theorem follow_sends (crates : Crates) (network : Network) (left : ℕ) :
    ∀ (current : String) (state : State),
      Sends (left + 1) state (follow crates network .new left current state).2 := by
  induction left with
  | zero =>
      intro current state
      have hopped := hop_sends crates network current state
      rw [follow]
      rcases turn : hop crates network .new current state with ⟨outcome, sent⟩
      rw [turn] at hopped
      cases outcome with
      | error error => exact hopped
      | ok answer =>
          obtain ⟨response, url⟩ := answer
          dsimp only
          split_ifs <;> exact hopped
  | succ left ih =>
      intro current state
      have hopped := hop_sends crates network current state
      rw [follow]
      rcases turn : hop crates network .new current state with ⟨outcome, sent⟩
      rw [turn] at hopped
      have early : Sends (left + 1 + 1) state sent := hopped.mono (by omega)
      cases outcome with
      | error error => exact early
      | ok answer =>
          obtain ⟨response, url⟩ := answer
          dsimp only
          split_ifs
          · cases redirectTarget crates url response with
            | error error => exact early
            | ok target =>
                rw [Nat.add_comm (left + 1) 1]
                exact Sends.trans hopped (ih target sent)
          · exact early
          · exact early

end Fetch

/-! ### A resolution -/

section Resolution

variable (crates : Crates) (network : Network)

/-- A fetch sends at most five requests. -/
theorem getJson_sends {α : Type} (read : List UInt8 → Except String α) (rawUrl : String)
    (state : State) :
    Sends (maxRedirects + 1) state (getJson crates network .new read rawUrl state).2 := by
  have fetched := follow_sends crates network maxRedirects rawUrl state
  rw [getJson]
  rcases outcome : follow crates network .new maxRedirects rawUrl state with ⟨result, after⟩
  rw [outcome] at fetched
  cases result with
  | error error => exact fetched
  | ok body => exact fetched

theorem resolveUrl_sends (lnurlpUrl : String) (owedMsat : ℕ) (now : ℤ) (state : State) :
    Sends (maxRedirects + 1 + (maxRedirects + 1)) state
      (resolveUrl crates network .new lnurlpUrl owedMsat now state).2 := by
  have first := getJson_sends crates network crates.readPay lnurlpUrl state
  rw [resolveUrl]
  rcases paid : getJson crates network .new crates.readPay lnurlpUrl state with ⟨result, after⟩
  rw [paid] at first
  have once := first.mono (Nat.le_add_right _ (maxRedirects + 1))
  cases result with
  | error error => exact once
  | ok pay =>
      dsimp only
      split_ifs
      · exact once
      · exact once
      · cases crates.parseUrl pay.callback with
        | error error => exact once
        | ok callback =>
            dsimp only
            have second := getJson_sends crates network crates.readCallback
              (crates.appendPair callback "amount" (toString owedMsat)) after
            rcases called : getJson crates network .new crates.readCallback
              (crates.appendPair callback "amount" (toString owedMsat)) after with ⟨answer, sent⟩
            rw [called] at second
            cases answer <;> exact Sends.trans first second

/-- **A resolution sends at most two fetches' requests, all of them vetted.** -/
theorem resolve_sends (dest : String) (owedMsat : ℕ) (now : ℤ) (state : State) :
    Sends (maxRedirects + 1 + (maxRedirects + 1)) state
      (resolve crates network .new dest owedMsat now state).2 := by
  rw [resolve]
  cases detectForm crates dest with
  | error error => exact .idle rfl
  | ok form =>
      cases form with
      | bolt11 => cases crates.parseBolt11 dest <;> exact .idle rfl
      | lnAddress user domain => exact resolveUrl_sends crates network _ owedMsat now state
      | lnurl url => exact resolveUrl_sends crates network url owedMsat now state

end Resolution

/-! ### Connections -/

/-- A connection that a request opens. -/
structure Connection where
  tls : Bool
  /-- it goes to a proxy of the environment -/
  proxied : Bool
  ip : IpAddr

/-- **What the HTTP client promises** of the connections of its requests: an `https` URL is fetched over
TLS, and, where no proxy is in between, an address literal at that address and a name that is pinned at
one of the given addresses. It follows no redirect. -/
structure Documented (opens : ℕ → Request → List Connection) : Prop where
  tls : ∀ number request, request.url.scheme = "https" →
    ∀ connection ∈ opens number request, connection.tls = true
  ipv4 : ∀ number request v4, request.url.host = some (.ipv4 v4) →
    ∀ connection ∈ opens number request, connection.proxied = false → connection.ip = .v4 v4
  ipv6 : ∀ number request v6, request.url.host = some (.ipv6 v6) →
    ∀ connection ∈ opens number request, connection.proxied = false → connection.ip = .v6 v6
  overridden : ∀ number request name addrs, request.url.host = some (.domain name) →
    request.resolveToAddrs = some (name, addrs) →
    ∀ connection ∈ opens number request, connection.proxied = false →
      ∃ addr ∈ addrs, addr.ip = connection.ip

/-- **The environment sets no proxy**: `client_builder` leaves the system's proxies on. -/
def Unproxied (opens : ℕ → Request → List Connection) : Prop :=
  ∀ number request, ∀ connection ∈ opens number request, connection.proxied = false

/-- **The address a request is pinned to**: the literal of its URL, or one of those its name was looked
up to. -/
inductive Pins (request : Request) : IpAddr → Prop
  | ipv4 (v4 : Ipv4Addr) : request.url.host = some (.ipv4 v4) → Pins request (.v4 v4)
  | ipv6 (v6 : Ipv6Addr) : request.url.host = some (.ipv6 v6) → Pins request (.v6 v6)
  | domain (name : String) (addrs : List SocketAddr) (addr : SocketAddr) :
      request.url.host = some (.domain name) → request.resolveToAddrs = some (name, addrs) →
      addr ∈ addrs → Pins request addr.ip

/-- A vetted request connects to a checked address that it is pinned to. -/
theorem Vetted.connects {opens : ℕ → Request → List Connection} (documented : Documented opens)
    {request : Request} (vetted : Vetted request) {number : ℕ} {connection : Connection}
    (opened : connection ∈ opens number request) (direct : connection.proxied = false) :
    connection.tls = true ∧ checkIp connection.ip = .ok () ∧ Pins request connection.ip := by
  refine ⟨documented.tls number request vetted.https connection opened, ?_⟩
  cases host : request.url.host with
  | none => exact absurd host vetted.host
  | some which =>
      cases which with
      | ipv4 v4 =>
          rw [documented.ipv4 number request v4 host connection opened direct]
          exact ⟨vetted.ipv4 v4 host, .ipv4 v4 host⟩
      | ipv6 v6 =>
          rw [documented.ipv6 number request v6 host connection opened direct]
          exact ⟨vetted.ipv6 v6 host, .ipv6 v6 host⟩
      | domain name =>
          obtain ⟨addrs, pinned, checked⟩ := vetted.domain name host
          obtain ⟨addr, member, same⟩ :=
            documented.overridden number request name addrs host pinned connection opened direct
          rw [← same]
          exact ⟨checked addr member, .domain name addrs addr host pinned member⟩

/-- **The resolver never connects to a refused address.** Whatever the destination, the lookups and the
responses, where no proxy is set, each connection of a resolution is https and goes to an address that
was checked and that its request is pinned to; a fetch sends at most one request more than it follows
redirects; and an IPv6 address is accepted only if the IPv4 address it carries is. -/
theorem resolve_guarded {opens : ℕ → Request → List Connection} (documented : Documented opens)
    (unproxied : Unproxied opens) (crates : Crates) (network : Network) :
    (∀ (dest : String) (owedMsat : ℕ) (now : ℤ),
      ∀ request ∈ (resolve crates network .new dest owedMsat now .start).2.requests,
        ∀ number, ∀ connection ∈ opens number request, connection.tls = true ∧
          checkIp connection.ip = .ok () ∧ Pins request connection.ip) ∧
      (∀ (α : Type) (read : List UInt8 → Except String α) (rawUrl : String) (state : State),
        (getJson crates network .new read rawUrl state).2.requests.length ≤
          state.requests.length + (maxRedirects + 1)) ∧
      ∀ v6 v4, Carries v6 v4 → checkIp (.v6 v6) = .ok () → checkIp (.v4 v4) = .ok () := by
  refine ⟨fun dest owedMsat now request member number connection opened => ?_, ?_, ?_⟩
  · obtain ⟨requests, sent, _, vetted⟩ := resolve_sends crates network dest owedMsat now .start
    rw [sent] at member
    exact (vetted request member).connects documented opened
      (unproxied number request connection opened)
  · intro α read rawUrl state
    obtain ⟨requests, sent, few, _⟩ := getJson_sends crates network read rawUrl state
    rw [sent, List.length_append]
    exact Nat.add_le_add_left few _
  · exact fun v6 v4 => accepted_of_carries

/-! ### A redirect to a loopback address -/

/-- A client that connects where it is told. -/
def pinning (_ : ℕ) (request : Request) : List Connection :=
  let tls := decide (request.url.scheme = "https")
  match request.url.host, request.resolveToAddrs with
  | some (.ipv4 v4), _ => [⟨tls, false, .v4 v4⟩]
  | some (.ipv6 v6), _ => [⟨tls, false, .v6 v6⟩]
  | some (.domain name), some (pinned, addrs) =>
      if pinned = name then addrs.map fun addr => ⟨tls, false, addr.ip⟩ else []
  | _, _ => []

theorem pinning_documented : Documented pinning where
  tls number request https connection opened := by
    unfold pinning at opened
    rw [decide_eq_true https] at opened
    dsimp only at opened
    split at opened
    · exact List.mem_singleton.mp opened ▸ rfl
    · exact List.mem_singleton.mp opened ▸ rfl
    · split_ifs at opened
      · obtain ⟨addr, _, rfl⟩ := List.mem_map.mp opened
        rfl
      · exact absurd opened List.not_mem_nil
    · exact absurd opened List.not_mem_nil
  ipv4 number request v4 host connection opened _ := by
    simp only [pinning, host] at opened
    exact List.mem_singleton.mp opened ▸ rfl
  ipv6 number request v6 host connection opened _ := by
    simp only [pinning, host] at opened
    exact List.mem_singleton.mp opened ▸ rfl
  overridden number request name addrs host pinned connection opened _ := by
    simp only [pinning, host, pinned, if_true] at opened
    obtain ⟨addr, member, rfl⟩ := List.mem_map.mp opened
    exact ⟨addr, member, rfl⟩

theorem pinning_unproxied : Unproxied pinning := by
  intro number request connection opened
  unfold pinning at opened
  dsimp only at opened
  split at opened
  · exact List.mem_singleton.mp opened ▸ rfl
  · exact List.mem_singleton.mp opened ▸ rfl
  · split_ifs at opened
    · obtain ⟨addr, _, rfl⟩ := List.mem_map.mp opened
      rfl
    · exact absurd opened List.not_mem_nil
  · exact absurd opened List.not_mem_nil

/-- Crates that know two URLs: a name's, and that of a loopback literal. -/
def twoUrls : Crates where
  parseUrl raw :=
    if raw = "https://shop.example/.well-known/lnurlp/alice" then
      .ok ⟨"https", some (.domain "shop.example"), some 443, raw⟩
    else .ok ⟨"https", some (.ipv4 ⟨127, 0, 0, 1⟩), some 443, raw⟩
  join _ location := .ok ⟨"https", some (.ipv4 ⟨127, 0, 0, 1⟩), some 443, location⟩
  appendPair url _ _ := url.text
  decodeBech32 _ := .error ""
  fromUtf8 _ := none
  parseBolt11 _ := .error ""
  sha256 _ := ""
  readEnvelope _ := none
  readPay _ := .error ""
  readCallback _ := .error ""

/-- A network where every response is a redirect to the literal. -/
def redirecting : Network where
  lookupHost _ _ _ := .ok [⟨.v4 ⟨8, 8, 8, 8⟩, 443⟩]
  buildClient _ := .ok ()
  send _ _ := .ok ⟨302, some "https://127.0.0.1/", none, []⟩

theorem resolve_guarded_redirected :
    (resolve twoUrls redirecting .new "alice@shop.example" 1000 0 .start).1 =
        .error (.structural (.privateAddress (.v4 ⟨127, 0, 0, 1⟩))) ∧
      ∀ request ∈ (resolve twoUrls redirecting .new "alice@shop.example" 1000 0 .start).2.requests,
        ∀ number, ∀ connection ∈ pinning number request, connection.tls = true ∧
          checkIp connection.ip = .ok () ∧ Pins request connection.ip :=
  ⟨by rfl, (resolve_guarded pinning_documented pinning_unproxied twoUrls redirecting).1
    "alice@shop.example" 1000 0⟩

end Lnrent.RefundResolver
