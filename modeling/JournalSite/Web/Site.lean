import JournalSite.Http.Coding
import JournalSite.Web.Document
import JournalSite.Web.PolicyPages
import JournalSite.Web.StaticFiles
import JournalSite.Web.StyleSheet

/-!
# The site

The site answers requests. Four kinds of paths are told apart, each by its
characters as they are written: a sign of life, the two pages of the journal, the
files of the pages' script below `/pkg`, and all others, which are looked up
among the static pages. So is what has no path.
-/

namespace JournalSite

open JournalSite.Http

/-- What the site has to answer with. -/
structure Site where
  /-- The settings of the pages. -/
  settings : PageSettings
  /-- The static pages. -/
  website : ServedDirectory
  /-- The files of the pages' script. -/
  assets : ServedDirectory

namespace Site

/-- Where a request goes. -/
inductive Route where
  /-- A sign of life. -/
  | health
  /-- A page of the journal. -/
  | page (screen : Screen)
  /-- The files of the pages' script; the request is seen from their root. -/
  | asset (target : Target)
  /-- The static pages. -/
  | static
  deriving DecidableEq, Repr

/-- A path below `/pkg`, seen from there. -/
def belowAssets? (path : List Char) : Option (List Char) :=
  match "/pkg".toList.isPrefixOf? path with
  | some [] => some ['/']
  | some ('/' :: rest) => some ('/' :: rest)
  | _ => none

/-- Where a request for a target goes. -/
def route : Target → Route
  | .resource origin path query =>
    if path = "/healthz".toList then .health
    else if path = "/".toList then .page .home
    else if path = "/journal".toList then .page .journal
    else
      match belowAssets? path with
      | some below => .asset (.resource origin below query)
      | none => .static
  | .asterisk => .static
  | .host _ => .static

/-- The answer of a route that knows two methods. Who asks only what would be said gets no body. -/
def reading (r : Request) (accepted : List (List Char)) (answer : Response) : Response :=
  if r.method = "GET" then answer.coded accepted
  else if r.method = "HEAD" then (answer.coded accepted).withoutBody
  else .bare 405 [allowed, ("content-length", "0")]

/-- A page of the journal. `secret` is the page's own. -/
def page (site : Site) (secret : String) (screen : Screen) : Response :=
  ⟨200, [("content-type", "text/html; charset=utf-8")],
    .plain (Text.utf8 (Document.markup site.settings secret screen).render)⟩

/-- The answer of the static pages. Where a request has no path, an answer without bytes says so. -/
def staticAnswer (site : Site) (r : Request) : Response :=
  let answer := StaticFiles.serve site.website r
  if r.target.isResource then answer else answer.addHeaderIfMissing "content-length" "0"

/-- The answer of the site to a request. `secret` is new for every request. -/
def answer (site : Site) (secret : String) (r : Request) : Response :=
  let accepted := r.visibleHeaders "accept-encoding"
  match route r.target with
  | .health => reading r accepted (.bare 200 [("content-length", "0")])
  | .page screen => reading r accepted (site.page secret screen)
  | .asset target => (StaticFiles.serve site.assets { r with target }).coded accepted
  | .static => (site.staticAnswer r).coded accepted

/-- The site in an environment. `assetsAt` gives the files of the pages' script that lie below the
directory of the site's files, where none stands for the directory that comes with the host. -/
def ofEnvironment (env : Environment) (website : ServedDirectory)
    (assetsAt : Option String → Option FileTree) : Except HostError Site := do
  let settings ← PageSettings.ofEnvironment env
  .ok ⟨settings, website, ⟨settings.siteDirectory ++ "/pkg", assetsAt settings.siteRoot⟩⟩

end Site

end JournalSite
