import JournalSite.Web.FileTree

/-!
# The style sheet

The style sheet of the journal's pages, `daybook.css`. It gives every component
its looks by the classes the component is drawn with.
-/

namespace JournalSite

/-- The style sheet, line by line. -/
def styleSheetLines : List String :=
  ["body \x7b",
   "    margin: 0;",
   "    padding: 1rem;",
   "    font-family: system-ui, sans-serif;",
   "    color: #1f2328;",
   "    background: #fbfaf7;",
   "\x7d",
   "",
   ".layout-shell \x7b",
   "    display: flex;",
   "    flex-direction: column;",
   "\x7d",
   "",
   ".journal-page \x7b",
   "    flex: 1;",
   "    padding: 1.5rem;",
   "    max-width: 48rem;",
   "    margin: 0 auto;",
   "    width: 100%;",
   "\x7d",
   "",
   ".journal-page__header \x7b",
   "    display: flex;",
   "    align-items: center;",
   "    justify-content: space-between;",
   "    gap: 1rem;",
   "\x7d",
   "",
   ".journal-page__nav a \x7b",
   "    margin-right: 1rem;",
   "\x7d",
   "",
   ".journal-entry__body \x7b",
   "    width: 100%;",
   "    min-height: 16rem;",
   "    font: inherit;",
   "\x7d",
   "",
   ".render-boundary \x7b",
   "    border: 1px solid #d1242f;",
   "    border-radius: 6px;",
   "    padding: 1rem;",
   "    background: #fff5f5;",
   "\x7d",
   "",
   ".render-boundary__heading \x7b",
   "    margin-top: 0;",
   "\x7d",
   "",
   ".persona-selector \x7b",
   "    display: grid;",
   "    grid-template-columns: repeat(auto-fill, minmax(10rem, 1fr));",
   "    gap: 0.75rem;",
   "\x7d",
   "",
   ".persona-option \x7b",
   "    display: flex;",
   "    flex-direction: column;",
   "    gap: 0.25rem;",
   "    padding: 0.75rem;",
   "    border: 1px solid #d0d7de;",
   "    border-radius: 6px;",
   "    background: #fff;",
   "    text-align: left;",
   "    cursor: pointer;",
   "\x7d",
   "",
   ".persona-option--selected \x7b",
   "    border-color: #0969da;",
   "    box-shadow: 0 0 0 2px #0969da33;",
   "\x7d",
   "",
   ".persona-option__emoji \x7b",
   "    font-size: 1.5rem;",
   "\x7d",
   "",
   ".persona-option__description \x7b",
   "    font-size: 0.85rem;",
   "    color: #57606a;",
   "\x7d",
   "",
   ".status-pill \x7b",
   "    display: inline-block;",
   "    padding: 0.125rem 0.625rem;",
   "    border-radius: 999px;",
   "    font-size: 0.8rem;",
   "    font-weight: 600;",
   "\x7d",
   "",
   ".status-pill--success \x7b background: #dafbe1; color: #1a7f37; \x7d",
   ".status-pill--warning \x7b background: #fff8c5; color: #9a6700; \x7d",
   ".status-pill--danger \x7b background: #ffebe9; color: #cf222e; \x7d",
   ".status-pill--info \x7b background: #ddf4ff; color: #0969da; \x7d",
   ".status-pill--neutral \x7b background: #eaeef2; color: #57606a; \x7d",
   "",
   ".site-footer \x7b",
   "    display: flex;",
   "    flex-wrap: wrap;",
   "    align-items: center;",
   "    gap: 1rem;",
   "    padding: 1rem 1.5rem;",
   "    border-top: 1px solid #d0d7de;",
   "    font-size: 0.85rem;",
   "\x7d",
   "",
   ".site-footer__links \x7b",
   "    display: flex;",
   "    gap: 1rem;",
   "\x7d",
   "",
   ".site-footer__brand \x7b",
   "    margin: 0 0 0 auto;",
   "    color: #57606a;",
   "\x7d"]

/-- The files that belong to the pages' script. -/
def builtInAssets (modified : Int) : FileTree :=
  .directory [("daybook.css", .file ⟨ofLines styleSheetLines, "text/css", modified⟩)]

end JournalSite
