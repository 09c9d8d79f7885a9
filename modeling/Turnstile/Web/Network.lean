import Turnstile.World
/-!
# The network

What answers requests. A request is on record once it was sent, whatever
becomes of it.
-/

namespace Turnstile

/-- Answers a request, or tells why there is no answer. -/
abbrev Network := HttpRequest → StateM World (Except String HttpResponse)

namespace Network

/-- No server can be reached. -/
def unreachable : Network := fun request =>
  pure (.error ("error sending request for url (" ++ request.url.text ++ ")"))

/-- Send a request. -/
def send (network : Network) (request : HttpRequest) : Act String HttpResponse := do
  Act.change fun w => { w with requests := w.requests ++ [request] }
  ExceptT.mk (network request)

end Network

end Turnstile
