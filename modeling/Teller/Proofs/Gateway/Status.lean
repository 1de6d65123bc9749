import Teller.Proofs.Gateway.Serve

/-!
# Statuses and the book

The status of an answer tells what the request has done to the book. Each way in which a request can end
(`Ends`) has its status and its change of the book, so the one is read off the other.
-/

namespace Teller

namespace Gateway

variable {terms : Terms} {r : Request} {x : Answer} {b b' : Bank}

/-- What a request that nobody interferes with has done, and how it ends. -/
theorem ends_of_path (hs : b.store.Sound) (hp : Timed.Path (respond terms r) b (.done x) b') :
    ∃ p, Ends r p x ∧ p.stage.Dealt r.Mine terms.overdraft b.store.book b'.store.book :=
  Conduct.dealt_of_path (telling_respond terms r b) hs hp

end Gateway

end Teller
