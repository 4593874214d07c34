/-
**The resolver of refund destinations** (`refund_resolver.rs`). A destination becomes a URL, which is
fetched along its redirects; the callback it names is fetched too, for an invoice that is checked.

* `checkIp` — the addresses that are refused;
* `Crates` — what the crates make of URLs, bech32, invoices and JSON;
* `detectForm` — the forms of a destination;
* `Request`, `Network`, `State` — what is sent, what comes back, and what was sent so far;
* `validateUrl`, `validatedAddrs`, `getJson` — one guarded fetch;
* `validateInvoice`, `resolve` — a resolution.

A message stands as a constructor with the values it shows.
-/

import Lnrent.Net.Address

namespace Lnrent.RefundResolver

open Net

/-! ### The refused addresses -/

/-- **`ipv4_blocked`** -/
def ipv4Blocked (v4 : Ipv4Addr) : Bool :=
  v4.isPrivate || v4.isLoopback || v4.isLinkLocal || v4.isUnspecified || v4.isBroadcast ||
    v4.isDocumentation || v4.isMulticast ||
    v4.a = 0 ||
    (v4.a = 100 && v4.b &&& 0xc0 = 64) ||
    (v4.a = 192 && v4.b = 0 && v4.c = 0) ||
    (v4.a = 198 && v4.b &&& 0xfe = 18) ||
    240 ≤ v4.a

/-- **`embedded_ipv4`** -/
def embeddedIpv4 (v6 : Ipv6Addr) : Option Ipv4Addr :=
  match v6.toIpv4Mapped with
  | some v4 => some v4
  | none =>
      if (v6.s0 = 0 ∧ v6.s1 = 0 ∧ v6.s2 = 0 ∧ v6.s3 = 0 ∧ v6.s4 = 0 ∧ v6.s5 = 0) ∧
          (v6.s6 ≠ 0 ∨ v6.s7 ≠ 0) then
        some (.ofSegments v6.s6 v6.s7)
      else if v6.s0 = 0x0064 ∧ v6.s1 = 0xff9b ∧ v6.s2 = 0 ∧ v6.s3 = 0 ∧ v6.s4 = 0 ∧ v6.s5 = 0 then
        some (.ofSegments v6.s6 v6.s7)
      else if v6.s0 = 0x2002 then some (.ofSegments v6.s1 v6.s2)
      else if v6.s0 = 0x2001 ∧ v6.s1 = 0x0000 then
        some (.ofSegments (v6.s6 ^^^ 0xffff) (v6.s7 ^^^ 0xffff))
      else none

/-- **`ipv6_blocked`** -/
def ipv6Blocked (v6 : Ipv6Addr) : Bool :=
  if v6.isLoopback || v6.isUnspecified || v6.isMulticast then true
  else if v6.s0 &&& 0xfe00 = 0xfc00 ∨ v6.s0 &&& 0xffc0 = 0xfe80 ∨ v6.s0 &&& 0xffc0 = 0xfec0 then true
  else
    match embeddedIpv4 v6 with
    | some v4 => ipv4Blocked v4
    | none => false

/-! ### Errors -/

/-- The texts of the errors. -/
inductive Message where
  | emptyDestination
  | malformedAddress (destination : String)
  | bolt12
  | unsupported
  | invalidBech32 (error : String)
  | unexpectedHrp (hrp : String)
  | notUtf8
  | malformedBolt11 (error : String)
  | invalidUrl (raw error : String)
  | notHttps (scheme url : String)
  | localhost
  | noHost
  | privateAddress (ip : IpAddr)
  | lookupFailed (name error : String)
  | lookupTimedOut (name : String)
  | noAddresses (name : String)
  | clientBuild (error : String)
  | requestFailed (url error : String)
  | tooManyRedirects (url : String)
  | noLocation (url : String)
  | invalidTarget (location error : String)
  | httpStatus (url : String) (status : ℕ)
  | bodyTooLarge (length : ℕ)
  | bodyFailed (error : String)
  | bodyOverCap
  | protocolError (url : String) (reason : Option String)
  | invalidJson (url error : String)
  | wrongTag (tag : Option String)
  | outOfRange (owed least most : ℕ)
  | invalidCallback (callback error : String)
  | unparseableInvoice (error : String)
  | wrongAmount (amount : Option ℕ) (owed : ℕ)
  | wrongHash (got want : String)
  | directDescription
  | expiresSoon (expiry now : ℤ)
deriving DecidableEq

/-- `ResolveError` -/
inductive ResolveError where
  | structural (message : Message)
  | transient (message : Message)
deriving DecidableEq

/-- **`check_ip`** -/
def checkIp (ip : IpAddr) : Except ResolveError Unit :=
  if (match ip with | .v4 v4 => ipv4Blocked v4 | .v6 v6 => ipv6Blocked v6) = true then
    .error (.structural (.privateAddress ip))
  else .ok ()

/-! ### The crates -/

/-- `url::Host` -/
inductive Host where
  | domain (name : String)
  | ipv4 (address : Ipv4Addr)
  | ipv6 (address : Ipv6Addr)
deriving DecidableEq

/-- `url::Url`, with its text. -/
structure Url where
  scheme : String
  host : Option Host
  portOrKnownDefault : Option ℕ
  text : String
deriving DecidableEq

inductive Description where
  | hash (hex : String)
  | direct
deriving DecidableEq

/-- `Bolt11Invoice`; `expiresAt` in seconds. -/
structure Bolt11 where
  amountMilliSatoshis : Option ℕ
  description : Description
  expiresAt : Option ℕ
deriving DecidableEq

/-- `LnurlPayResponse` -/
structure LnurlPayResponse where
  tag : Option String
  callback : String
  minSendable : ℕ
  maxSendable : ℕ
  metadata : String

/-- `LnurlErrorEnvelope` -/
structure LnurlErrorEnvelope where
  status : Option String
  reason : Option String

/-- **What the crates compute.** -/
structure Crates where
  parseUrl : String → Except String Url
  join : Url → String → Except String Url
  /-- `query_pairs_mut().append_pair`, as text. -/
  appendPair : Url → String → String → String
  decodeBech32 : String → Except String (String × List UInt8)
  fromUtf8 : List UInt8 → Option String
  parseBolt11 : String → Except String Bolt11
  /-- The hex of the SHA-256 of a text. -/
  sha256 : String → String
  readEnvelope : List UInt8 → Option LnurlErrorEnvelope
  readPay : List UInt8 → Except String LnurlPayResponse
  /-- The `pr` of a `LnurlCallbackResponse`. -/
  readCallback : List UInt8 → Except String String

/-! ### Destinations -/

/-- `char::is_whitespace` -/
def isWhitespace (char : Char) : Bool :=
  let code := char.toNat
  (9 ≤ code && code ≤ 13) || code = 0x20 || code = 0x85 || code = 0xa0 || code = 0x1680 ||
    (0x2000 ≤ code && code ≤ 0x200a) || code = 0x2028 || code = 0x2029 || code = 0x202f ||
    code = 0x205f || code = 0x3000

/-- `str::trim` -/
def trim (text : List Char) : List Char :=
  ((text.dropWhile isWhitespace).reverse.dropWhile isWhitespace).reverse

/-- `DestForm` -/
inductive DestForm where
  | bolt11
  | lnAddress (user domain : String)
  | lnurl (url : String)
deriving DecidableEq

/-- `parse_ln_address` -/
def parseLnAddress (text : List Char) : Except ResolveError DestForm :=
  let user := text.takeWhile (· ≠ '@')
  let domain := (text.dropWhile (· ≠ '@')).drop 1
  let malformed := ResolveError.structural (.malformedAddress (String.ofList text))
  if user = [] ∨ domain = [] ∨ '@' ∈ domain then .error malformed
  else
    let userOk := user.all fun char => char.isAlphanum || ['.', '_', '-', '+'].contains char
    let domainOk := domain.all fun char => char.isAlphanum || ['.', '-', ':'].contains char
    if userOk = false ∨ domainOk = false then .error malformed
    else .ok (.lnAddress (String.ofList user) (String.ofList domain))

section Resolver

variable (crates : Crates)

/-- `decode_lnurl` -/
def decodeLnurl (text : String) : Except ResolveError String :=
  match crates.decodeBech32 text with
  | .error error => .error (.structural (.invalidBech32 error))
  | .ok (hrp, data) =>
      if hrp.toList.map Char.toLower ≠ "lnurl".toList then .error (.structural (.unexpectedHrp hrp))
      else
        match crates.fromUtf8 data with
        | none => .error (.structural .notUtf8)
        | some url => .ok url

/-- **`detect_form`** -/
def detectForm (dest : String) : Except ResolveError DestForm :=
  let text := trim dest.toList
  let lower := text.map Char.toLower
  if text = [] then .error (.structural .emptyDestination)
  else if '@' ∈ text then parseLnAddress text
  else if "lnurl".toList.isPrefixOf lower = true then
    (decodeLnurl crates (String.ofList text)).map .lnurl
  else if "lno1".toList.isPrefixOf lower = true then .error (.structural .bolt12)
  else
    match crates.parseBolt11 (String.ofList text) with
    | .ok _ => .ok .bolt11
    | .error _ => .error (.structural .unsupported)

/-! ### One fetch -/

/-- `SocketAddr` -/
structure SocketAddr where
  ip : IpAddr
  port : ℕ
deriving DecidableEq

/-- **A request**: its URL, and the addresses that the client resolves one name to. -/
structure Request where
  url : Url
  resolveToAddrs : Option (String × List SocketAddr)
deriving DecidableEq

/-- How a lookup fails. -/
inductive LookupFailure where
  | failed (error : String)
  | timedOut

/-- A response; its body is a stream of chunks. -/
structure Response where
  status : ℕ
  location : Option String
  contentLength : Option ℕ
  chunks : List (Except String (List UInt8))

/-- **What the network answers**, to its lookups and its requests by their numbers. -/
structure Network where
  lookupHost : ℕ → String → ℕ → Except LookupFailure (List SocketAddr)
  buildClient : ℕ → Except String Unit
  send : ℕ → Request → Except String Response

/-- What was done so far. -/
structure State where
  lookups : ℕ
  requests : List Request

def State.start : State := ⟨0, []⟩

/-- `Resolver`, without its client. -/
structure Resolver where
  allowPrivateHosts : Bool

/-- `Resolver::new` -/
def Resolver.new : Resolver := ⟨false⟩

/-- `MAX_BODY_BYTES` -/
def maxBodyBytes : ℕ := 64 * 1024
/-- `MAX_REDIRECTS` -/
def maxRedirects : ℕ := 4
/-- `MIN_BOLT11_TTL_S` -/
def minBolt11TtlS : ℤ := 600

variable (network : Network) (resolver : Resolver)

/-- **`validate_url`** -/
def validateUrl (raw : String) : Except ResolveError Url :=
  match crates.parseUrl raw with
  | .error error => .error (.structural (.invalidUrl raw error))
  | .ok url =>
      if ¬ (url.scheme = "https" ∨ resolver.allowPrivateHosts = true ∧ url.scheme = "http") then
        .error (.structural (.notHttps url.scheme url.text))
      else
        match url.host with
        | none => .error (.structural .noHost)
        | some (.domain name) =>
            let lower := name.toList.map Char.toLower
            if resolver.allowPrivateHosts = false ∧
                (lower = "localhost".toList ∨ ".localhost".toList.isSuffixOf lower = true) then
              .error (.structural .localhost)
            else .ok url
        | some _ => .ok url

/-- The first address that is refused. -/
def checkAddrs : List SocketAddr → Except ResolveError Unit
  | [] => .ok ()
  | first :: rest =>
      match checkIp first.ip with
      | .error error => .error error
      | .ok () => checkAddrs rest

/-- What a lookup's answer is worth. -/
def checkLookup (name : String) :
    Except LookupFailure (List SocketAddr) → Except ResolveError (Option (String × List SocketAddr))
  | .error (.failed error) => .error (.transient (.lookupFailed name error))
  | .error .timedOut => .error (.transient (.lookupTimedOut name))
  | .ok addrs =>
      if addrs = [] then .error (.transient (.noAddresses name))
      else
        match checkAddrs addrs with
        | .error error => .error error
        | .ok () => .ok (some (name, addrs))

/-- **`validated_addrs`**: the addresses to pin, `none` if there are none. -/
def validatedAddrs (url : Url) (state : State) :
    Except ResolveError (Option (String × List SocketAddr)) × State :=
  if resolver.allowPrivateHosts = true then (.ok none, state)
  else
    match url.host with
    | some (.ipv4 v4) => ((checkIp (.v4 v4)).map fun _ => none, state)
    | some (.ipv6 v6) => ((checkIp (.v6 v6)).map fun _ => none, state)
    | some (.domain name) =>
        (checkLookup name
          (network.lookupHost state.lookups name (url.portOrKnownDefault.getD 443)),
          { state with lookups := state.lookups + 1 })
    | none => (.error (.structural .noHost), state)

/-- One request, through a client pinned to the addresses, or through the shared one. -/
def send (url : Url) (pinned : Option (String × List SocketAddr)) (state : State) :
    Except ResolveError Response × State :=
  match pinned.isSome, network.buildClient state.requests.length with
  | true, .error error => (.error (.transient (.clientBuild error)), state)
  | _, _ =>
      let request := ⟨url, pinned⟩
      let after := { state with requests := state.requests ++ [request] }
      match network.send state.requests.length request with
      | .error error => (.error (.transient (.requestFailed url.text error)), after)
      | .ok response => (.ok response, after)

/-- `redirect_target` -/
def redirectTarget (current : Url) (response : Response) : Except ResolveError String :=
  match response.location with
  | none => .error (.structural (.noLocation current.text))
  | some location =>
      match crates.join current location with
      | .error error => .error (.structural (.invalidTarget location error))
      | .ok target => .ok target.text

/-- `classify_http_status` -/
def classifyHttpStatus (status : ℕ) (url : Url) : ResolveError :=
  if (500 ≤ status ∧ status ≤ 599) ∨ status = 408 ∨ status = 429 then
    .transient (.httpStatus url.text status)
  else .structural (.httpStatus url.text status)

/-- The chunks of a body, under the cap. -/
def readChunks : List UInt8 → List (Except String (List UInt8)) → Except ResolveError (List UInt8)
  | read, [] => .ok read
  | _, .error error :: _ => .error (.transient (.bodyFailed error))
  | read, .ok chunk :: rest =>
      if maxBodyBytes < read.length + chunk.length then .error (.transient .bodyOverCap)
      else readChunks (read ++ chunk) rest

/-- `read_body_capped` -/
def readBodyCapped (response : Response) : Except ResolveError (List UInt8) :=
  match response.contentLength with
  | some length =>
      if maxBodyBytes < length then .error (.transient (.bodyTooLarge length))
      else readChunks [] response.chunks
  | none => readChunks [] response.chunks

/-- One turn of the loop of `get_json`: validate, pin, send. -/
def hop (current : String) (state : State) : Except ResolveError (Response × Url) × State :=
  match validateUrl crates resolver current with
  | .error error => (.error error, state)
  | .ok url =>
      match validatedAddrs network resolver url state with
      | (.error error, looked) => (.error error, looked)
      | (.ok pinned, looked) =>
          match send network url pinned looked with
          | (.error error, sent) => (.error error, sent)
          | (.ok response, sent) => (.ok (response, url), sent)

/-- The loop of `get_json`, with so many redirects left: the body, and where it came from. -/
def follow : ℕ → String → State → Except ResolveError (List UInt8 × Url) × State
  | left, current, state =>
      match hop crates network resolver current state with
      | (.error error, sent) => (.error error, sent)
      | (.ok (response, url), sent) =>
          if 300 ≤ response.status ∧ response.status ≤ 399 then
            match left with
            | 0 => (.error (.structural (.tooManyRedirects url.text)), sent)
            | left + 1 =>
                match redirectTarget crates url response with
                | .error error => (.error error, sent)
                | .ok target => follow left target sent
          else if ¬ (200 ≤ response.status ∧ response.status ≤ 299) then
            (.error (classifyHttpStatus response.status url), sent)
          else ((readBodyCapped response).map fun body => (body, url), sent)

/-- What a body holds: a protocol error, or what is read from it. -/
def readJson {α : Type} (read : List UInt8 → Except String α) (body : List UInt8) (url : Url) :
    Except ResolveError α :=
  let refused := do
    let envelope ← crates.readEnvelope body
    if envelope.status = some "ERROR" then some envelope.reason else none
  match refused with
  | some reason => .error (.structural (.protocolError url.text reason))
  | none =>
      match read body with
      | .error error => .error (.transient (.invalidJson url.text error))
      | .ok value => .ok value

/-- **`get_json`** -/
def getJson {α : Type} (read : List UInt8 → Except String α) (rawUrl : String) (state : State) :
    Except ResolveError α × State :=
  match follow crates network resolver maxRedirects rawUrl state with
  | (.error error, after) => (.error error, after)
  | (.ok (body, url), after) => (readJson crates read body url, after)

/-! ### A resolution -/

/-- `Resolved` -/
structure Resolved where
  bolt11 : String
  expiry : ℤ
deriving DecidableEq

/-- `bolt11_expiry_unix` -/
def bolt11ExpiryUnix (invoice : Bolt11) : ℤ :=
  match invoice.expiresAt with
  | some seconds => min (seconds : ℤ) (2 ^ 63 - 1)
  | none => 2 ^ 63 - 1

/-- `validate_invoice` -/
def validateInvoice (pr : String) (owedMsat : ℕ) (metadata : String) (now : ℤ) :
    Except ResolveError Resolved :=
  match crates.parseBolt11 pr with
  | .error error => .error (.structural (.unparseableInvoice error))
  | .ok invoice =>
      if invoice.amountMilliSatoshis ≠ some owedMsat then
        .error (.structural (.wrongAmount invoice.amountMilliSatoshis owedMsat))
      else
        match invoice.description with
        | .direct => .error (.structural .directDescription)
        | .hash got =>
            if got ≠ crates.sha256 metadata then
              .error (.structural (.wrongHash got (crates.sha256 metadata)))
            else if bolt11ExpiryUnix invoice < now + minBolt11TtlS then
              .error (.transient (.expiresSoon (bolt11ExpiryUnix invoice) now))
            else .ok ⟨pr, bolt11ExpiryUnix invoice⟩

/-- `ln_address_url` -/
def lnAddressUrl (user domain : String) : String :=
  let scheme := if resolver.allowPrivateHosts = true then "http" else "https"
  scheme ++ "://" ++ domain ++ "/.well-known/lnurlp/" ++ user

/-- The two fetches of a resolution. -/
def resolveUrl (lnurlpUrl : String) (owedMsat : ℕ) (now : ℤ) (state : State) :
    Except ResolveError Resolved × State :=
  match getJson crates network resolver crates.readPay lnurlpUrl state with
  | (.error error, paid) => (.error error, paid)
  | (.ok pay, paid) =>
      if pay.tag ≠ some "payRequest" then (.error (.structural (.wrongTag pay.tag)), paid)
      else if owedMsat < pay.minSendable ∨ pay.maxSendable < owedMsat then
        (.error (.structural (.outOfRange owedMsat pay.minSendable pay.maxSendable)), paid)
      else
        match crates.parseUrl pay.callback with
        | .error error => (.error (.structural (.invalidCallback pay.callback error)), paid)
        | .ok callback =>
            let target := crates.appendPair callback "amount" (toString owedMsat)
            match getJson crates network resolver crates.readCallback target paid with
            | (.error error, called) => (.error error, called)
            | (.ok pr, called) => (validateInvoice crates pr owedMsat pay.metadata now, called)

/-- **`resolve`** -/
def resolve (dest : String) (owedMsat : ℕ) (now : ℤ) (state : State) :
    Except ResolveError Resolved × State :=
  match detectForm crates dest with
  | .error error => (.error error, state)
  | .ok .bolt11 =>
      match crates.parseBolt11 dest with
      | .error error => (.error (.structural (.malformedBolt11 error)), state)
      | .ok invoice => (.ok ⟨dest, bolt11ExpiryUnix invoice⟩, state)
  | .ok (.lnAddress user domain) =>
      resolveUrl crates network resolver (lnAddressUrl resolver user domain) owedMsat now state
  | .ok (.lnurl url) => resolveUrl crates network resolver url owedMsat now state

end Resolver

end Lnrent.RefundResolver
