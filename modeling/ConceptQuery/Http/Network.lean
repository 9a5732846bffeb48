import ConceptQuery.Http.Message

/-!
# The network

A network answers requests by the replies it holds, in order, and by one fixed reply once they are
used up.  It remembers what was sent.

* `Http.Network` — the replies to come, the fixed reply, and the requests sent so far;
* `Http.Network.exchange` — one request and its reply;
* `Http.Network.always` — a network with one reply for everything.
-/

namespace ConceptQuery.Http

/-- Replies to come and requests sent, the earliest first. -/
structure Network where
  pending : List Reply
  otherwise : Reply
  sent : List Request
deriving Inhabited

namespace Network

/-- A network with one reply for everything. -/
def always (reply : Reply) : Network := ⟨[], reply, []⟩

/-- The reply to the next request. -/
def next (n : Network) : Reply :=
  n.pending.headD n.otherwise

/-- Sends a request and receives its reply. -/
def exchange (n : Network) (r : Request) : Reply × Network :=
  (n.next, { n with pending := n.pending.tail, sent := n.sent ++ [r] })

@[simp] theorem exchange_sent (n : Network) (r : Request) :
    (n.exchange r).2.sent = n.sent ++ [r] := rfl

end Network

end ConceptQuery.Http
