import JournalSite.Web.ReloadScript
import JournalSite.Web.Screen

/-!
# Documents

A page is sent as a whole document: a head that names the style sheet and the
script, a body that shows the screen, and some empty lists in which the script
expects what the server has looked up for it.

The script takes over the page in the browser. It is named twice in the head, so
that the browser fetches it early, and once in the call that starts it. Every
script carries a secret that is new for every page, so that a script which got
into the page by other ways is not run.
-/

namespace JournalSite.Document

open JournalSite.Markup

/-- The script that starts the program of the page, up to its arguments. -/
def starter : String :=
  "(function (root, pkg_path, output_name, wasm_output_name, defer) \x7b\n" ++
  "\tconst hydrate = () =>\n" ++
  "\t\timport(`$\x7broot\x7d/$\x7bpkg_path\x7d/$\x7boutput_name\x7d.js`)\n" ++
  "\t\t\t.then(mod => \x7b\n" ++
  "\t\t\t\tmod.default(\x7bmodule_or_path: " ++
  "`$\x7broot\x7d/$\x7bpkg_path\x7d/$\x7bwasm_output_name\x7d.wasm`\x7d).then(() => \x7b\n" ++
  "\t\t\t\t\tmod.hydrate();\n" ++
  "\t\t\t\t\x7d);\n" ++
  "\t\t\t\x7d);\n" ++
  "\tif (defer && \"requestIdleCallback\" in window) \x7b\n" ++
  "\t\t// `timeout` is a backstop: a never-idle page would otherwise stay dead\n" ++
  "\t\twindow.requestIdleCallback(hydrate, \x7b timeout: 2000 \x7d);\n" ++
  "\t\x7d else \x7b\n" ++
  "\t\thydrate();\n" ++
  "\t\x7d\n" ++
  "\x7d)\n"

/-- The call of the script, with the names it is to fetch. -/
def starterCall (settings : PageSettings) : String :=
  starter ++ "(" ++ Text.quoted "" ++ ", " ++ Text.quoted settings.packageDirectory ++ ", " ++
    Text.quoted settings.outputName ++ ", " ++ Text.quoted (settings.outputName ++ "_bg") ++
    ", false);"

/-- Where the browser finds a file of the script. -/
def packageFile (settings : PageSettings) (ending : String) : String :=
  "/" ++ settings.packageDirectory ++ "/" ++ settings.outputName ++ ending

/-- The head of a document. -/
def head (settings : PageSettings) (secret : String) : Markup :=
  element "head" [] (ofList [
    single "meta" [⟨"charset", "utf-8"⟩],
    single "meta" [⟨"name", "viewport"⟩, ⟨"content", "width=device-width, initial-scale=1"⟩],
    ReloadScript.markup settings secret,
    single "link" [⟨"rel", "modulepreload"⟩, ⟨"href", packageFile settings ".js"⟩,
      ⟨"crossorigin", secret⟩],
    single "link" [⟨"rel", "preload"⟩, ⟨"href", packageFile settings "_bg.wasm"⟩,
      ⟨"as", "fetch"⟩, ⟨"type", "application/wasm"⟩, ⟨"crossorigin", secret⟩],
    element "script" [⟨"type", "module"⟩, ⟨"nonce", secret⟩] (verbatim (starterCall settings)),
    verbatim "<!--HEAD-->",
    single "link" [⟨"id", "leptos"⟩, ⟨"rel", "stylesheet"⟩, ⟨"href", "/pkg/daybook.css"⟩],
    element "title" [] (text "Daybook")])

/-- The lists for what the server has looked up, all empty. -/
def emptyLists (secret : String) : Markup :=
  element "script" [⟨"nonce", secret⟩]
    (verbatim ("__RESOLVED_RESOURCES=[];__SERIALIZED_ERRORS=[];__PENDING_RESOURCES=[];" ++
      "__RESOURCE_RESOLVERS=[];")) ++
  element "script" [⟨"nonce", secret⟩] (verbatim "__INCOMPLETE_CHUNKS=[];")

/-- The document that shows a screen. -/
def markup (settings : PageSettings) (secret : String) (screen : Screen) : Markup :=
  verbatim "<!DOCTYPE html>" ++
  element "html" [⟨"lang", "en"⟩]
    (head settings secret ++ element "body" [] screen.markup) ++
  emptyLists secret

end JournalSite.Document
