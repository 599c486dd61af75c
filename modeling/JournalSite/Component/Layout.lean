import JournalSite.Markup

/-!
# What every page has

The shell stretches a page over the whole height of the window and takes back
the margin that the surrounding document leaves around it.

A page ends with the footer: links to the policies and an address to write to.
The policies are files of the website, outside the application, so their links
are marked external.
-/

namespace JournalSite

/-! ### The shell -/

/-- The style of the shell. -/
def shellStyle : String :=
  "margin: -1rem -1rem 0; min-height: 100vh; height: 100vh;"

/-- A page inside its shell. -/
def layoutShell (inner : Markup) : Markup :=
  .element "div" [⟨"class", "layout-shell"⟩, ⟨"style", shellStyle⟩] inner

/-! ### The footer -/

/-- A link of the footer. -/
structure FooterLink where
  /-- The words of the link. -/
  title : String
  /-- Where the link leads. -/
  target : String
  deriving DecidableEq, Repr

/-- The links of the footer, in the order they are shown. -/
def footerLinks : List FooterLink :=
  [⟨"Terms of Service", "/terms"⟩, ⟨"Privacy Policy", "/privacy"⟩,
   ⟨"Refund Policy", "/refund-policy"⟩]

/-- The address to write to. -/
def contactEmail : String := "support@daybook.app"

/-- The link that opens a letter to the contact address. -/
def contactLink : String := "mailto:" ++ contactEmail

/-- A link of the footer as it is drawn. -/
def FooterLink.markup (link : FooterLink) : Markup :=
  .element "a" [⟨"href", link.target⟩, ⟨"rel", "external"⟩, ⟨"class", "site-footer__link"⟩]
    (.text link.title)

/-- The footer. -/
def siteFooter : Markup :=
  .element "footer" [⟨"class", "site-footer"⟩]
    (.element "nav" [⟨"class", "site-footer__links"⟩]
        (.listed (footerLinks.map FooterLink.markup)) ++
      .element "a" [⟨"href", contactLink⟩, ⟨"class", "site-footer__contact"⟩]
        (.text "Contact us") ++
      .element "p" [⟨"class", "site-footer__brand"⟩] (.text "Daybook"))

end JournalSite
