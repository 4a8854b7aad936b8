import NightRecon.Lib.Collect
import NightRecon.Lib.Worklist
import NightRecon.RedEngine.WebUrls

/-!
# Crawls of one origin

`discover_html_content`, `_fetch_page` and `crawl_site` of `nightrecon_red_engine/web_crawl.py`.

* `Stdlib` — what a crawl takes from the standard library;
* `HtmlContentParser`, `discoverHtmlContent` — what is read of a page;
* `fetchPage`, `crawlSite` — one page, and the crawl, over any `PageFetcher`;
* `discover_links_origin`, `siteFetcher_reportsOrigin` — a page reports links of the origin only;
* `Crawled`, `crawl_site_law` — every page once, each reported by an earlier one, none over the
  limit, and below the limit all that are linked.
-/

namespace NightRecon.RedEngine.WebCrawl

open NightRecon.Lib
open NightRecon.Lib.Checks
open NightRecon.Lib.Ipaddress
open NightRecon.Lib.Text

/-! ## Observations -/

structure WebFormInput where
  name : String
  inputType : String

structure WebFormObservation where
  action : String
  method : String
  inputs : List WebFormInput

structure WebCookieObservation where
  name : String
  path : String
  secure : Bool
  httpOnly : Bool
  sameSite : String

structure HtmlContentDiscovery where
  title : String
  links : List String
  forms : List WebFormObservation
  scriptSources : List String

structure CrawlPage where
  url : String
  status : Option Int
  contentType : String
  byteCount : Nat
  links : List String
  error : String
  title : String
  forms : List WebFormObservation
  scriptSources : List String
  cookies : List WebCookieObservation

structure CrawlResult where
  startUrl : String
  origin : String
  pages : List CrawlPage
  maxPages : Int
  maxBytesPerPage : Int

/-- Source: `web_crawl.py` `CrawlResult.pages_fetched`. -/
def CrawlResult.pagesFetched (r : CrawlResult) : Nat := r.pages.length

/-! ## Pages -/

/-- What the parser of the standard library reports of a document. -/
inductive HtmlEvent where
  | startTag (tag : String) (attrs : List (String × Option String))
  | endTag (tag : String)
  | text (data : String)

/-- The attributes of a cookie that are read; of two of them, whether they are set. -/
structure Morsel where
  path : String
  secure : Bool
  httponly : Bool
  samesite : String

/-- What a crawl takes from the standard library: the case mappings, the normalization, the joining
of URLs, the decoding of a body by a charset with `errors="replace"`, the events of a document and
the cookies of a header. -/
structure Stdlib where
  lower : List Char → List Char
  upper : String → String
  nfkc : List Char → List Char
  urljoin : String → String → Py String
  decode : String → List UInt8 → Py String
  htmlEvents : String → List HtmlEvent
  loadCookie : String → Py (List (String × Morsel))

/-- `text.lower()`. -/
def Stdlib.lowered (lib : Stdlib) (text : String) : String := String.ofList (lib.lower text.toList)

/-- Source: `web_crawl.py` `_HtmlContentParser`. -/
structure HtmlContentParser where
  links : List String
  scriptSources : List String
  forms : List (String × String × List WebFormInput)
  currentFormAction : String
  currentFormMethod : String
  currentFormInputs : Option (List WebFormInput)
  inTitle : Bool
  titleParts : List String

namespace HtmlContentParser

def empty : HtmlContentParser := ⟨[], [], [], "", "", none, false, []⟩

/-- Source: `web_crawl.py` `_HtmlContentParser._flush_current_form`. -/
def flushCurrentForm (parser : HtmlContentParser) : HtmlContentParser :=
  match parser.currentFormInputs with
  | none => parser
  | some inputs =>
    { parser with
      forms := parser.forms ++ [(parser.currentFormAction, parser.currentFormMethod, inputs)]
      currentFormAction := ""
      currentFormMethod := ""
      currentFormInputs := none }

/-- `attr_map.get(name) or default`: the last attribute of the name, when it has a text. -/
def attrValue (lib : Stdlib) (attrs : List (String × Option String)) (name default : String) :
    String :=
  match ((attrs.filter fun a => lib.lowered a.1 = name).getLast?.bind (·.2)) with
  | some value => if value = "" then default else value
  | none => default

/-- Source: `web_crawl.py` `_HtmlContentParser.handle_starttag`. -/
def handleStarttag (lib : Stdlib) (parser : HtmlContentParser) (tag : String)
    (attrs : List (String × Option String)) : HtmlContentParser :=
  let loweredTag := lib.lowered tag
  let href := attrValue lib attrs "href" ""
  let source := attrValue lib attrs "src" ""
  let parser := if (loweredTag = "a" ∨ loweredTag = "area") ∧ href ≠ "" then
    { parser with links := parser.links ++ [href] } else parser
  let parser := if loweredTag = "script" ∧ source ≠ "" then
    { parser with scriptSources := parser.scriptSources ++ [source] } else parser
  let parser := if loweredTag = "title" then { parser with inTitle := true } else parser
  if loweredTag = "form" then
    { parser.flushCurrentForm with
      currentFormAction := attrValue lib attrs "action" ""
      currentFormMethod := attrValue lib attrs "method" "get"
      currentFormInputs := some [] }
  else
    match parser.currentFormInputs with
    | none => parser
    | some inputs =>
      if loweredTag = "input" then
        { parser with currentFormInputs := some (inputs ++ [⟨strip (attrValue lib attrs "name" ""),
            lib.lowered (strip (attrValue lib attrs "type" "text"))⟩]) }
      else parser

/-- Source: `web_crawl.py` `_HtmlContentParser.handle_endtag`. -/
def handleEndtag (lib : Stdlib) (parser : HtmlContentParser) (tag : String) : HtmlContentParser :=
  if lib.lowered tag = "title" then { parser with inTitle := false }
  else if lib.lowered tag = "form" then parser.flushCurrentForm
  else parser

/-- Source: `web_crawl.py` `_HtmlContentParser.handle_data`. -/
def handleData (parser : HtmlContentParser) (data : String) : HtmlContentParser :=
  if parser.inTitle then { parser with titleParts := parser.titleParts ++ [data] } else parser

def handle (lib : Stdlib) (parser : HtmlContentParser) : HtmlEvent → HtmlContentParser
  | .startTag tag attrs => handleStarttag lib parser tag attrs
  | .endTag tag => handleEndtag lib parser tag
  | .text data => handleData parser data

/-- The parser after a document and its end. -/
def read (lib : Stdlib) (document : List HtmlEvent) : HtmlContentParser :=
  (document.foldl (handle lib) empty).flushCurrentForm

def maxTitleLength : Nat := 512

/-- Source: `web_crawl.py` `_HtmlContentParser.title`. -/
def title (parser : HtmlContentParser) : String :=
  let words := ((" ".intercalate parser.titleParts).toList.splitOnP isSpace).filter fun w => w ≠ []
  String.ofList (([' '].intercalate words).take maxTitleLength)

end HtmlContentParser

/-- A call whose `ValueError` is caught. -/
def catchValueError {α : Type} (x : Py α) : Py (Option α) :=
  match x with
  | .ok a => return some a
  | .error e => if e.cls.isValueError then return none else .error e

section Discovery

variable (lib : Stdlib)

/-- `normalize_http_url(urljoin(base_url, candidate))`. -/
def normalizeJoined (baseUrl candidate : String) : Py String := do
  normalizeHttpUrl lib.lower lib.nfkc (← lib.urljoin baseUrl candidate)

def insertNew (l : List String) (s : String) : List String := if s ∈ l then l else l ++ [s]

def skippedSchemes : List String := ["javascript:", "mailto:", "tel:", "data:"]

/-- One link of a document. -/
def discoverLink (baseUrl origin : String) (links : List String) (rawLink : String) :
    Py (List String) := do
  let candidate := strip rawLink
  if candidate = "" then return links
  else if skippedSchemes.any fun scheme => scheme.toList <+: (lib.lowered candidate).toList then
    return links
  else
    match ← catchValueError (normalizeJoined lib baseUrl candidate) with
    | none => return links
    | some absolute =>
      let found ← urlOrigin lib.lower lib.nfkc absolute
      return if found = origin then insertNew links absolute else links

/-- One form of a document. -/
def discoverForm (baseUrl : String) (form : String × String × List WebFormInput) :
    Py WebFormObservation := do
  let candidate := if strip form.1 ≠ "" then strip form.1 else baseUrl
  let action ← catchValueError (normalizeJoined lib baseUrl candidate)
  let method := lib.upper (strip form.2.1)
  return ⟨action.getD "", if method = "" then "GET" else method, form.2.2⟩

/-- One script of a document. -/
def discoverScript (baseUrl : String) (sources : List String) (rawSource : String) :
    Py (List String) := do
  let candidate := strip rawSource
  if candidate = "" then return sources
  else
    let source ← catchValueError (normalizeJoined lib baseUrl candidate)
    return source.elim sources (insertNew sources)

/-- Source: `web_crawl.py` `discover_html_content`. -/
def discoverHtmlContent (baseUrl : String) (document : List HtmlEvent) (origin : String) :
    Py HtmlContentDiscovery := do
  let parser := HtmlContentParser.read lib document
  let links ← parser.links.foldlM (discoverLink lib baseUrl origin) []
  let forms ← parser.forms.mapM (discoverForm lib baseUrl)
  let scriptSources ← parser.scriptSources.foldlM (discoverScript lib baseUrl) []
  return ⟨parser.title, sortedStr links, forms, sortedStr scriptSources⟩

/-! ## Cookies -/

/-- One cookie of a header. -/
def observeCookie (cookie : String × Morsel) : WebCookieObservation :=
  ⟨cookie.1, strip cookie.2.path, cookie.2.secure, cookie.2.httponly,
    lib.lowered (strip cookie.2.samesite)⟩

/-- The cookies of one header; a header that is refused has none. -/
def observeHeader (rawValue : String) : Py (List WebCookieObservation) :=
  match lib.loadCookie rawValue with
  | .ok cookies => return cookies.map (observeCookie lib)
  | .error e => if e.cls = .cookieError then return [] else .error e

/-- The key by which cookies are sorted. -/
def WebCookieObservation.key (c : WebCookieObservation) :
    String ×ₗ String ×ₗ Bool ×ₗ Bool ×ₗ String :=
  toLex (c.name, toLex (c.path, toLex (c.secure, toLex (c.httpOnly, c.sameSite))))

/-- Source: `web_crawl.py` `parse_set_cookie_metadata`. -/
def parseSetCookieMetadata (values : List String) : Py (List WebCookieObservation) := do
  let observations ← values.mapM (observeHeader lib)
  return observations.flatten.insertionSort fun a b => a.key ≤ b.key

/-! ## Fetching -/

/-- The arguments of `_fetch_page`. -/
structure FetchRequest where
  url : String
  origin : String
  maxBytes : Int
  timeout : Rat
  userAgent : String
  authorization : Option String
  cookie : Option String
  connectAddress : Option String

/-- What is read of a response. -/
structure Response where
  status : Option Int
  contentType : String
  charset : String
  url : String
  setCookie : List String
  content : List UInt8

/-- A site answers a request with a response or fails with a text; the answer may depend on the
pages before it. -/
abbrev Site := FetchRequest → List CrawlPage → Except String Response

def htmlContentTypes : List String := ["text/html", "application/xhtml+xml"]

/-- The response that is accepted, with its final URL. -/
def acceptResponse (site : Site) (request : FetchRequest) (pages : List CrawlPage) :
    Except String (Response × String) := do
  let response ← site request pages
  let found : String × String ← Except.mapError (fun e : Exn => "ValueError: " ++ e.message) do
    let finalUrl ← normalizeHttpUrl lib.lower lib.nfkc response.url
    let origin ← urlOrigin lib.lower lib.nfkc finalUrl
    raiseIf (origin ≠ request.origin) (valueError ("Cross-origin response blocked: " ++ finalUrl))
    return (finalUrl, origin)
  return (response, found.1)

/-- The content that is read. -/
def FetchRequest.body (request : FetchRequest) (response : Response) : List UInt8 :=
  response.content.take request.maxBytes.toNat

/-- The text of a body: an unknown charset is read as UTF-8. -/
def decodeBody (charset : String) (raw : List UInt8) : Py String :=
  match lib.decode charset raw with
  | .ok html => return html
  | .error e => if e.cls = .lookupError then lib.decode "utf-8" raw else .error e

/-- What is read of the content of a response. -/
def discoverResponse (request : FetchRequest) (response : Response) (finalUrl : String) :
    Py HtmlContentDiscovery :=
  if response.contentType ∈ htmlContentTypes then do
    let html ← decodeBody lib response.charset (request.body response)
    discoverHtmlContent lib finalUrl (lib.htmlEvents html) request.origin
  else return ⟨"", [], [], []⟩

/-- Source: `web_crawl.py` `_fetch_page`. -/
def fetchPage (site : Site) (request : FetchRequest) (pages : List CrawlPage) : Py CrawlPage :=
  match acceptResponse lib site request pages with
  | .error error => return ⟨request.url, none, "", 0, [], error, "", [], [], []⟩
  | .ok found => do
    let response := found.1
    let discovery ← discoverResponse lib request response found.2
    let cookies ← parseSetCookieMetadata lib response.setCookie
    return ⟨request.url, response.status, response.contentType, (request.body response).length,
      discovery.links, "", discovery.title, discovery.forms, discovery.scriptSources, cookies⟩

end Discovery

/-- **Whatever fetches pages**: what it returns is the page of the URL it was asked for. -/
structure PageFetcher where
  fetch : FetchRequest → List CrawlPage → Py CrawlPage
  url_eq : ∀ request pages page, fetch request pages = .ok page → page.url = request.url

/-! ## Crawling -/

/-- The arguments of `crawl_site`. -/
structure CrawlArguments where
  startUrl : String
  maxPages : Int
  maxBytesPerPage : Int
  timeout : Rat
  userAgent : String
  authorization : Option String
  cookie : Option String
  connectAddress : Option String

/-- Where a crawl starts. -/
structure CrawlStart where
  url : String
  origin : String
  connectAddress : Option String
  deriving DecidableEq

/-- What `crawl_site` does before its loop. -/
def startCrawl (lib : Stdlib) (a : CrawlArguments) : Py CrawlStart := do
  raiseIf (a.maxPages < 1) (valueError "max_pages must be at least 1.")
  raiseIf (a.maxBytesPerPage < 1) (valueError "max_bytes_per_page must be at least 1.")
  raiseIf (a.timeout ≤ 0) (valueError "timeout must be greater than 0.")
  raiseIf (strip a.userAgent = "") (valueError "user_agent must be a non-empty string.")
  raiseIf (∃ t ∈ a.authorization, strip t = "")
    (valueError "authorization must be a non-empty string when provided.")
  raiseIf (∃ t ∈ a.cookie, strip t = "")
    (valueError "cookie must be a non-empty string when provided.")
  let connectAddress ← a.connectAddress.mapM fun t => do
    let address ← getOrRaise (ipAddress t)
      (valueError "connect_address must be a valid IPv4 or IPv6 address.")
    return address.str
  let normalizedStart ← normalizeHttpUrl lib.lower lib.nfkc a.startUrl
  let origin ← urlOrigin lib.lower lib.nfkc normalizedStart
  return ⟨normalizedStart, origin, connectAddress⟩

/-- The request for one page. -/
def CrawlArguments.request (a : CrawlArguments) (s : CrawlStart) (url : String) : FetchRequest :=
  ⟨url, s.origin, a.maxBytesPerPage, a.timeout, strip a.userAgent, a.authorization.map strip,
    a.cookie.map strip, s.connectAddress⟩

/-- Source: `web_crawl.py` `crawl_site`. -/
def crawlSite (lib : Stdlib) (fetcher : PageFetcher) (a : CrawlArguments) : Py CrawlResult := do
  let s ← startCrawl lib a
  let pages ← Worklist.run a.maxPages.toNat (fun pages url => fetcher.fetch (a.request s url) pages)
    CrawlPage.links a.maxPages.toNat ⟨[s.url], [s.url], []⟩
  return ⟨s.url, s.origin, pages, a.maxPages, a.maxBytesPerPage⟩

/-! ## Links of the origin -/

section Links

variable {lib : Stdlib}

theorem mem_insertNew {l : List String} {s t : String} : t ∈ insertNew l s ↔ t ∈ l ∨ t = s := by
  rw [insertNew]
  split_ifs with hmem
  · constructor
    · exact .inl
    · rintro (ht | rfl)
      · exact ht
      · exact hmem
  · rw [List.mem_append, List.mem_singleton]

/-- **A document gives links of the origin only.** -/
theorem discover_links_origin {baseUrl origin : String} {document : List HtmlEvent}
    {d : HtmlContentDiscovery} (h : discoverHtmlContent lib baseUrl document origin = .ok d) :
    ∀ link ∈ d.links, urlOrigin lib.lower lib.nfkc link = .ok origin := by
  rw [discoverHtmlContent] at h
  obtain ⟨links, hlinks, h⟩ := bind_eq_ok.mp h
  obtain ⟨forms, -, h⟩ := bind_eq_ok.mp h
  obtain ⟨sources, -, h⟩ := bind_eq_ok.mp h
  obtain rfl := Except.ok.inj h
  intro link hlink
  rw [mem_sortedStr] at hlink
  -- every turn adds a link whose origin was compared
  have hstep : ∀ raw ∈ (HtmlContentParser.read lib document).links, ∀ s s' : List String,
      (∀ l ∈ s, urlOrigin lib.lower lib.nfkc l = .ok origin) →
      discoverLink lib baseUrl origin s raw = .ok s' →
      ∀ l ∈ s', urlOrigin lib.lower lib.nfkc l = .ok origin := by
    intro raw _ s s' hs hturn
    rw [discoverLink] at hturn
    split_ifs at hturn with hblank hskipped
    · rwa [← Except.ok.inj hturn]
    · rwa [← Except.ok.inj hturn]
    · obtain ⟨absolute, -, hturn⟩ := bind_eq_ok.mp hturn
      cases absolute with
      | none => rwa [← Except.ok.inj hturn]
      | some absolute =>
        obtain ⟨found, hfound, hturn⟩ := bind_eq_ok.mp hturn
        rw [← Except.ok.inj hturn]
        split_ifs with hsame
        · intro l hl
          rcases mem_insertNew.mp hl with hl | rfl
          · exact hs l hl
          · rw [hfound, hsame]
        · exact hs
  exact Collect.foldlM_induct_mem hstep (fun l hl => absurd hl List.not_mem_nil) hlinks link hlink

/-- Whatever fetches pages reports links of the asked origin only. -/
def ReportsOrigin (lib : Stdlib) (fetcher : PageFetcher) : Prop :=
  ∀ request pages page, fetcher.fetch request pages = .ok page →
    ∀ link ∈ page.links, urlOrigin lib.lower lib.nfkc link = .ok request.origin

/-- **A page that was fetched is that of its URL and reports links of the asked origin only.** -/
theorem fetchPage_law {site : Site} {request : FetchRequest} {pages : List CrawlPage}
    {page : CrawlPage} (h : fetchPage lib site request pages = .ok page) :
    page.url = request.url ∧
      ∀ link ∈ page.links, urlOrigin lib.lower lib.nfkc link = .ok request.origin := by
  have hnone : ∀ link ∈ ([] : List String),
      urlOrigin lib.lower lib.nfkc link = .ok request.origin :=
    fun link hlink => absurd hlink List.not_mem_nil
  rw [fetchPage] at h
  cases haccept : acceptResponse lib site request pages with
  | error error =>
    rw [haccept] at h
    rw [← Except.ok.inj h]
    exact ⟨rfl, hnone⟩
  | ok found =>
    rw [haccept] at h
    obtain ⟨discovery, hdiscovery, h⟩ := bind_eq_ok.mp h
    obtain ⟨cookies, -, h⟩ := bind_eq_ok.mp h
    rw [← Except.ok.inj h]
    refine ⟨rfl, ?_⟩
    rw [discoverResponse] at hdiscovery
    split_ifs at hdiscovery with hhtml
    · obtain ⟨html, -, hdiscovery⟩ := bind_eq_ok.mp hdiscovery
      exact discover_links_origin hdiscovery
    · rw [← Except.ok.inj hdiscovery]
      exact hnone

/-- What `_fetch_page` makes of the answers of a site. -/
def siteFetcher (lib : Stdlib) (site : Site) : PageFetcher where
  fetch := fetchPage lib site
  url_eq := fun _ _ _ h => (fetchPage_law h).1

theorem siteFetcher_reportsOrigin (site : Site) : ReportsOrigin lib (siteFetcher lib site) :=
  fun _ _ _ h => (fetchPage_law h).2

end Links

/-! ## What a crawl fetches -/

/-- **What holds of a crawl**: no URL is fetched twice; every one is the start or was linked by a
page fetched before; there are at most `max_pages`, and below that every link was fetched, so that the
fetched URLs are those reached from the start. -/
structure Crawled (result : CrawlResult) : Prop where
  once : (result.pages.map CrawlPage.url).Nodup
  reported : ∀ before page after, result.pages = before ++ page :: after →
    page.url = result.startUrl ∨ ∃ earlier ∈ before, page.url ∈ earlier.links
  bounded : (result.pagesFetched : Int) ≤ result.maxPages
  complete : (result.pagesFetched : Int) < result.maxPages →
    ∀ page ∈ result.pages, ∀ link ∈ page.links, ∃ fetched ∈ result.pages, fetched.url = link
  closure : (result.pagesFetched : Int) < result.maxPages → ∀ url,
    (∃ fetched ∈ result.pages, fetched.url = url) ↔
      Relation.ReflTransGen (Worklist.Linked CrawlPage.url CrawlPage.links result.pages)
        result.startUrl url

section Law

variable {lib : Stdlib} {fetcher : PageFetcher} {a : CrawlArguments} {result : CrawlResult}

theorem startCrawl_eq_ok {s : CrawlStart} (h : startCrawl lib a = .ok s) :
    1 ≤ a.maxPages ∧ urlOrigin lib.lower lib.nfkc s.url = .ok s.origin := by
  rw [startCrawl] at h
  simp only [raiseIf_bind_eq_ok] at h
  obtain ⟨hpages, -, -, -, -, -, h⟩ := h
  obtain ⟨connectAddress, -, h⟩ := bind_eq_ok.mp h
  obtain ⟨url, hurl, h⟩ := bind_eq_ok.mp h
  obtain ⟨origin, horigin, h⟩ := bind_eq_ok.mp h
  obtain rfl := Except.ok.inj h
  exact ⟨by omega, horigin⟩

/-- The loop of a crawl gives the pages of a worklist. -/
theorem crawlSite_eq_ok (h : crawlSite lib fetcher a = .ok result) : ∃ s,
    startCrawl lib a = .ok s ∧ ∃ pages,
      Worklist.run a.maxPages.toNat (fun pages url => fetcher.fetch (a.request s url) pages)
        CrawlPage.links a.maxPages.toNat ⟨[s.url], [s.url], []⟩ = .ok pages ∧
      result = ⟨s.url, s.origin, pages, a.maxPages, a.maxBytesPerPage⟩ := by
  rw [crawlSite] at h
  obtain ⟨s, hs, h⟩ := bind_eq_ok.mp h
  obtain ⟨pages, hpages, h⟩ := bind_eq_ok.mp h
  exact ⟨s, hs, pages, hpages, (Except.ok.inj h).symm⟩

/-- **What a crawl fetches.** -/
theorem crawlSite_crawled (h : crawlSite lib fetcher a = .ok result) : Crawled result := by
  obtain ⟨s, hs, pages, hrun, rfl⟩ := crawlSite_eq_ok h
  have hlimit := (startCrawl_eq_ok hs).1
  have hfinished : Worklist.Finished CrawlPage.url CrawlPage.links s.url a.maxPages.toNat pages :=
    Worklist.run_law (by omega) (fun pages url page hpage => fetcher.url_eq _ _ _ hpage) hrun
  have hbelow : (pages.length : Int) < a.maxPages → pages.length < a.maxPages.toNat := by
    omega
  have hbounded := hfinished.bounded
  refine ⟨hfinished.once, hfinished.reported, ?_, ?_, ?_⟩
  · show (pages.length : Int) ≤ a.maxPages
    omega
  · intro hlt page hpage link hlink
    exact List.mem_map.mp (hfinished.complete (hbelow hlt) page hpage link hlink)
  · intro hlt url
    rw [← hfinished.closure (hbelow hlt) url, List.mem_map]

/-- **Every fetched URL has the origin of the start.** -/
theorem crawlSite_origin (hreports : ReportsOrigin lib fetcher)
    (h : crawlSite lib fetcher a = .ok result) :
    ∀ page ∈ result.pages, urlOrigin lib.lower lib.nfkc page.url = .ok result.origin := by
  have hcrawled := crawlSite_crawled h
  obtain ⟨s, hs, pages, hrun, rfl⟩ := crawlSite_eq_ok h
  have hlinks : ∀ page ∈ pages, ∀ link ∈ page.links,
      urlOrigin lib.lower lib.nfkc link = .ok s.origin :=
    Worklist.run_visited (fun pages url page hpage => hreports (a.request s url) pages page hpage)
      _ _ _ (fun page hpage => absurd hpage List.not_mem_nil) hrun
  intro page hpage
  obtain ⟨before, after, heq⟩ := List.append_of_mem hpage
  rcases hcrawled.reported before page after heq with hstart | ⟨earlier, hearlier, hlink⟩
  · rw [hstart]
    exact (startCrawl_eq_ok hs).2
  · have hmem : earlier ∈ pages := by
      have heq' : pages = before ++ page :: after := heq
      rw [heq']
      exact List.mem_append_left _ hearlier
    exact hlinks earlier hmem _ hlink

/-- A crawl whose pages are all fetched returns. -/
theorem crawlSite_returns {s : CrawlStart} (hs : startCrawl lib a = .ok s)
    (hfetch : ∀ request pages, ∃ page, fetcher.fetch request pages = .ok page) :
    ∃ result, crawlSite lib fetcher a = .ok result := by
  obtain ⟨pages, hpages⟩ := Worklist.run_returns
    (fun pages url => hfetch (a.request s url) pages) a.maxPages.toNat ⟨[s.url], [s.url], []⟩
  refine ⟨⟨s.url, s.origin, pages, a.maxPages, a.maxBytesPerPage⟩, ?_⟩
  rw [crawlSite, hs, ok_bind, hpages, ok_bind]
  rfl

/-- **The law of a crawl.**  Whatever fetches the pages, a crawl whose start is accepted returns
when every page is fetched; what it returns is a crawl from that start, and it stays at the origin
of the start when the pages report links of that origin, as those of `_fetch_page` do. -/
theorem crawl_site_law (lib : Stdlib) (fetcher : PageFetcher) (a : CrawlArguments) :
    (∀ s, startCrawl lib a = .ok s →
        (∀ request pages, ∃ page, fetcher.fetch request pages = .ok page) →
        ∃ result, crawlSite lib fetcher a = .ok result) ∧
      ∀ result, crawlSite lib fetcher a = .ok result →
        (∃ s, startCrawl lib a = .ok s ∧ result.startUrl = s.url ∧ result.origin = s.origin ∧
          result.maxPages = a.maxPages) ∧
        Crawled result ∧
        (ReportsOrigin lib fetcher → ∀ page ∈ result.pages,
          urlOrigin lib.lower lib.nfkc page.url = .ok result.origin) := by
  refine ⟨fun s hs hfetch => crawlSite_returns hs hfetch, ?_⟩
  intro result h
  refine ⟨?_, crawlSite_crawled h, fun hreports => crawlSite_origin hreports h⟩
  obtain ⟨s, hs, pages, -, rfl⟩ := crawlSite_eq_ok h
  exact ⟨s, hs, rfl, rfl, rfl⟩

end Law

/-- A library for ASCII texts, with a codec that replaces nothing. -/
def asciiLib : Stdlib where
  lower := List.map lowerChar
  upper := fun s => s
  nfkc := id
  urljoin := fun _ url => return url
  decode := fun charset raw =>
    if charset = "utf-8" then return String.ofList (raw.map fun b => Char.ofNat b.toNat)
    else if charset = "idna" then .error ⟨.unicodeError, "Unsupported error handling: replace"⟩
    else .error ⟨.lookupError, "unknown encoding: " ++ charset⟩
  htmlEvents := fun html => if html = "" then [] else [.text html]
  loadCookie := fun _ => return []

/-- A site whose pages link each other. -/
def ringFetcher : PageFetcher where
  fetch := fun request _ => return ⟨request.url, some 200, "text/html", 0,
    ["http://a/", "http://a/b"], "", "", [], [], []⟩
  url_eq := by
    intro request pages page h
    rw [← Except.ok.inj h]

/-- A crawl of the ring. -/
theorem ring_crawled : ∃ result, crawlSite asciiLib ringFetcher
    ⟨"http://a", 5, 1, 1, "crawler", none, none, none⟩ = .ok result ∧ Crawled result := by
  have hstart : startCrawl asciiLib ⟨"http://a", 5, 1, 1, "crawler", none, none, none⟩ =
      .ok ⟨"http://a/", "http://a", none⟩ := by decide +kernel
  have hlaw := crawl_site_law asciiLib ringFetcher
    ⟨"http://a", 5, 1, 1, "crawler", none, none, none⟩
  obtain ⟨result, hresult⟩ := hlaw.1 _ hstart fun request pages => ⟨_, rfl⟩
  exact ⟨result, hresult, (hlaw.2 result hresult).2.1⟩

end NightRecon.RedEngine.WebCrawl
