import Reattempt.Store

/-!
# Statements

A statement is a query that may bring a policy and a profile of its own. Its
terms are the options that hold for one execution of it.

* `Statement.handle?`, `Statement.chosen`: the handle that counts.
* `Statement.terms`: the options found through a profile: a level, a timeout
  and a policy of the statement's own go before those of the profile; the
  limit on retries is always the profile's.
-/

namespace Reattempt

/-- A query with the policy and the profile handle set for it alone. -/
structure Statement where
  query : Query
  policy : Option Configured
  handle : Option Handle

/-- The options that hold for one execution of a query. -/
structure Terms where
  query : Query
  policy : Configured
  /-- The level of the first attempt. -/
  consistency : Consistency
  /-- The limit of each attempt. -/
  timeout : Option Duration
  /-- How often the request may be retried at most. -/
  maxRetries : Nat

namespace Statement

/-- A statement with nothing set. -/
def ofText (text : String) : Statement := ⟨.ofText text, none, none⟩

/-- The statement's own handle, or else the given one. -/
def chosen (s : Statement) (fallback : Handle) : Handle := s.handle.getD fallback

/-- The options of an execution under a profile. -/
def terms (s : Statement) (p : Profile) : Terms where
  query := s.query
  policy := s.policy.getD p.policy
  consistency := s.query.consistency.getD p.consistency
  timeout := s.query.timeout.or p.timeout
  maxRetries := p.maxRetries.toNat

end Statement

end Reattempt
