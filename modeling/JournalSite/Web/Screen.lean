import JournalSite.Journal.Page
import JournalSite.Web.UrlPath

/-!
# Screens

What the visitor sees is decided by the path alone: the journal, the page that
leads on to today's day of the journal, or a note that there is no such page. A
slash at the end of the path does not matter; upper and lower case do.
-/

namespace JournalSite

/-- What the visitor sees. -/
inductive Screen where
  /-- The page that leads on to today's day of the journal. -/
  | home
  /-- The journal. -/
  | journal
  /-- A note that there is no such page. -/
  | notFound
  deriving DecidableEq, Repr

namespace Screen

/-- The screen at a path. The path of an address of a foreign scheme may begin without a slash,
which makes no difference. -/
def atPath (path : List Char) : Screen :=
  let below := ("/".toList.isPrefixOf? path).getD path
  if below = [] then home
  else if below = "journal".toList ∨ below = "journal/".toList then journal
  else notFound

/-- The screen at an address. -/
def atAddress? (address : String) : Option Screen :=
  (UrlPath.ofAddress? address.toList).map atPath

/-- What the server sends for a screen. Where the visitor is led on to is up to the browser, so the
home page is a place holder. -/
def markup : Screen → Markup
  | home => Markup.marker ++ Markup.verbatim "<!--<() />-->"
  | journal => journalPage .initial
  | notFound => Markup.text "Page not found."

end Screen

end JournalSite
