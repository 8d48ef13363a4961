import UsageReports.Web.Exchange

/-!
# Sites

A server that answers from a list: the first request with the first answer, and so on, the last
answer again and again. It keeps a log of the requests.
-/

namespace UsageReports

/-- A server with its coming answers and its log. -/
structure Site where
  /-- The host and port in front of a path. -/
  root : Url
  coming : List Served
  log : List Request := []

namespace Site

/-- Whether a URL is on a site. -/
def isOn (site : Site) (url : Url) : Bool :=
  url.scheme = site.root.scheme && url.host = site.root.host && url.port = site.root.port

/-- What is served next; a site without answers closes every connection. -/
def next (site : Site) : Served := site.coming.head?.getD .closed

/-- Serve a request. A silent site logs nothing. -/
def serve : Network Site := fun request site =>
  if !site.isOn request.url then (.closed, site)
  else
    match site.next with
    | .silent => (.silent, site)
    | served =>
      let coming := match site.coming with
        | _ :: c :: cs => c :: cs
        | cs => cs
      (served, { site with coming, log := site.log ++ [request] })

/-- A logged request in one line. -/
def line (request : Request) : String := "GET " ++ request.url.target

end Site

end UsageReports
