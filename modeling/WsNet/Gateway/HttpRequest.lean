import WsNet.Gateway.RewriteHeader
import WsNet.Gateway.App

/-! The request of the HTTP proxy, up to what it is sent to.

A target's host is resolved and authorized before the request is made; then the URL is
put together and parsed once more, by other rules: what was a name there may be an
address here. So the addresses are pinned for the URL's own host, and an address in the
URL must be one of them. Whatever the URL's parser makes of the text, what is dialed
was authorized (`HttpDispatch.dials_authorized`). -/
namespace WsNet.Gateway

/-- What is read of a parsed URL: `host_str` and `port_or_known_default`. -/
structure HttpUrl where
  host : Option String
  port : Option UInt16
  text : String
  deriving DecidableEq, Repr

/-- The client and its types: `Url::parse`, `Method::from_bytes`, and the addresses that
a request for a URL is sent to when a host is overridden with some. -/
class HttpClient where
  parseUrl : String → Except Error HttpUrl
  method : String → Except Error Unit
  dials : HttpUrl → String × List SocketAddr → List SocketAddr

/-- An address in the URL is dialed as it is; for the overridden host its addresses are,
each with the port of the URL. -/
class LawfulHttpClient [NetLiterals] [HttpClient] : Prop where
  literal : ∀ (url : HttpUrl) (host : String) (port : UInt16) (ip : IpAddr)
    (pinned : String × List SocketAddr), url.host = some host → url.port = some port →
    NetLiterals.parseIp (trimBrackets host) = some ip → HttpClient.dials url pinned ⊆ [⟨ip, port⟩]
  named : ∀ (url : HttpUrl) (host : String) (port : UInt16) (addresses : List SocketAddr),
    url.host = some host → url.port = some port → NetLiterals.parseIp (trimBrackets host) = none →
    HttpClient.dials url (host, addresses) ⊆ addresses.map fun a => { a with port }

/-- URLs of the form `http://host:port/path`, and the two rules: enough to run a request. -/
@[reducible] def HttpClient.plain [NetLiterals] : HttpClient where
  parseUrl text :=
    let authority := (text.toList.drop "http://".length).takeWhile (· ≠ '/')
    let host := authority.takeWhile (· ≠ ':')
    let port := (authority.drop (host.length + 1)).foldl (fun n c => 10 * n + (c.toNat - '0'.toNat)) 0
    .ok ⟨some (String.ofList host), some (UInt16.ofNat port), text⟩
  method _ := .ok ()
  dials url pinned :=
    match url.host, url.port with
    | some host, some port =>
      match NetLiterals.parseIp (trimBrackets host) with
      | some ip => [⟨ip, port⟩]
      | none => if host = pinned.1 then pinned.2.map fun a => { a with port } else []
    | _, _ => []

theorem HttpClient.plain_lawful [NetLiterals] : @LawfulHttpClient _ HttpClient.plain := by
  let _ : HttpClient := .plain
  constructor
  · intro url host port ip pinned hhost hport hip
    simp only [HttpClient.dials, hhost, hport, hip, List.Subset.refl]
  · intro url host port addresses hhost hport hip
    simp only [HttpClient.dials, hhost, hport, hip, if_true, List.Subset.refl]

/-- A request ready to be sent: no proxy, and no redirect is followed. -/
structure HttpDispatch where
  method : String
  url : HttpUrl
  headers : List (String × String)
  pinned : String × List SocketAddr
  deriving DecidableEq, Repr

def hopByHopHeaders : List String :=
  ["connection", "keep-alive", "proxy-authenticate", "proxy-authorization", "te", "trailer",
    "transfer-encoding", "upgrade"]

def asciiLowercase (name : String) : String := String.ofList (name.toList.map Char.toLower)

/-- What is passed on of a request's headers, and the target's own `host`. -/
def requestHeaders (target : TargetConfig) (headers : List (String × String)) : List (String × String) :=
  (headers.filter fun header =>
    !hopByHopHeaders.contains (asciiLowercase header.1) && asciiLowercase header.1 != "host") ++
    [("host", target.host)]

/-- The URL's text. -/
def requestUrl (target : TargetConfig) (request : HttpRequestHead) : String :=
  let host := trimBrackets target.host
  let authority := if ':' ∈ host.toList then s!"[{host}]" else host
  s!"{target.schemeText}://{authority}:{target.port}{request.pathAndQuery}"

section Request
variable [NetLiterals] [HttpClient]

/-- `handle_http_request`, up to the request that it sends. -/
def httpRequest (target : TargetConfig) (address : List SocketAddr) (request : HttpRequestHead) :
    Except Error HttpDispatch := do
  ensure ((target.schemeText = "http" ∨ target.schemeText = "https") ∧
    request.pathAndQuery.toList.head? = some '/') (.other "HTTP 目标协议或请求路径不合法")
  let url ← HttpClient.parseUrl (requestUrl target request)
  let host ← orError url.host (.other "HTTP 目标缺少主机")
  ensure (¬ (url.port ≠ some target.port ∨
    (NetLiterals.parseIp (trimBrackets host)).any fun ip => !address.contains ⟨ip, target.port⟩))
    (.other "HTTP 目标与已授权地址不一致")
  HttpClient.method request.method
  return ⟨request.method, url, requestHeaders target request.headers, (host, address)⟩

/-- The addresses that the request is sent to. -/
def HttpDispatch.dials (dispatch : HttpDispatch) : List SocketAddr :=
  HttpClient.dials dispatch.url dispatch.pinned

/-- **Only what was authorized is dialed**, whatever the URL's parser makes of its text. -/
theorem HttpDispatch.dials_authorized [LawfulHttpClient] {target : TargetConfig}
    {address : List SocketAddr} {request : HttpRequestHead} {dispatch : HttpDispatch}
    (h : httpRequest target address request = .ok dispatch) (hports : ∀ a ∈ address, a.port = target.port) : dispatch.dials ⊆ address := by
  obtain ⟨_, _, h⟩ := bind_eq_ok.mp h
  obtain ⟨url, _, h⟩ := bind_eq_ok.mp h
  obtain ⟨host, hhost, h⟩ := bind_eq_ok.mp h
  obtain ⟨_, hagrees, h⟩ := bind_eq_ok.mp h
  obtain ⟨_, _, h⟩ := bind_eq_ok.mp h
  have hhost := orError_eq_ok.mp hhost
  obtain ⟨hport, hliteral⟩ := not_or.mp (ensure_eq_ok.mp hagrees)
  have hport := not_not.mp hport
  rw [← pure_eq_ok.mp h]
  intro a ha
  cases hip : NetLiterals.parseIp (trimBrackets host) with
  | some ip =>
    have hlisted : address.contains ⟨ip, target.port⟩ = true := by simpa [hip] using hliteral
    rw [List.mem_singleton.mp (LawfulHttpClient.literal url host target.port ip _ hhost hport hip ha)]
    exact List.contains_iff_mem.mp hlisted
  | none =>
    obtain ⟨b, hb, rfl⟩ := List.mem_map.mp
      (LawfulHttpClient.named url host target.port address hhost hport hip ha)
    rw [← hports b hb]
    exact hb

end Request

end WsNet.Gateway
