import JournalSite.Web.FileTree

/-!
# The policy pages

Three pages that do not change: what is done with the visitor's data, when money
is given back and on which terms the journal can be used. The footer of every
page leads to them.
-/

namespace JournalSite

/-- The privacy policy, line by line. -/
def privacyLines : List String :=
  ["<!DOCTYPE html>",
   "<html lang=\"en\">",
   "<head>",
   "<meta charset=\"utf-8\">",
   "<title>Privacy Policy · Daybook</title>",
   "</head>",
   "<body>",
   "<h1>Privacy Policy</h1>",
   "<p>Journal entries belong to you. We store them only to show them back to you and never sell them.</p>",
   "<p><a href=\"/\">Back to Daybook</a></p>",
   "</body>",
   "</html>"]

/-- The refund policy, line by line. -/
def refundLines : List String :=
  ["<!DOCTYPE html>",
   "<html lang=\"en\">",
   "<head>",
   "<meta charset=\"utf-8\">",
   "<title>Refund Policy · Daybook</title>",
   "</head>",
   "<body>",
   "<h1>Refund Policy</h1>",
   "<p>Subscriptions can be refunded within 14 days of the first charge. Write to support@daybook.app.</p>",
   "<p><a href=\"/\">Back to Daybook</a></p>",
   "</body>",
   "</html>"]

/-- The terms of service, line by line. -/
def termsLines : List String :=
  ["<!DOCTYPE html>",
   "<html lang=\"en\">",
   "<head>",
   "<meta charset=\"utf-8\">",
   "<title>Terms of Service · Daybook</title>",
   "</head>",
   "<body>",
   "<h1>Terms of Service</h1>",
   "<p>By using Daybook you agree to keep your account credentials private and to use the service lawfully.</p>",
   "<p><a href=\"/\">Back to Daybook</a></p>",
   "</body>",
   "</html>"]

/-- A directory that holds a page as its index. -/
def indexDirectory (lines : List String) (modified : Int) : FileTree :=
  .directory [("index.html", .file ⟨ofLines lines, "text/html", modified⟩)]

/-- The static pages that come with the host. -/
def builtInWebsite (modified : Int) : FileTree :=
  .directory
    [("privacy", indexDirectory privacyLines modified),
     ("refund-policy", indexDirectory refundLines modified),
     ("terms", indexDirectory termsLines modified)]

end JournalSite
