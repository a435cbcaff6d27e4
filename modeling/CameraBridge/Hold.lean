/-!
Holds: marks that travel with a payload and keep its producer waiting. A hold may be shared; the
first holder that releases it frees it, and so does the last holder that drops it.
-/

namespace CameraBridge

/-- A hold with the number of its holders. -/
structure Hold where
  holders : Nat := 1
  released : Bool := false
  deriving DecidableEq

namespace Hold

def isFree (hold : Hold) : Bool := hold.released || hold.holders == 0

def share (hold : Hold) : Hold := { hold with holders := hold.holders + 1 }

/-- Some holder releases the hold; releasing it again does nothing. -/
def release (hold : Hold) : Hold := { hold with released := true }

def drop (hold : Hold) : Hold := { hold with holders := hold.holders - 1 }

def describe (hold : Hold) : String :=
  if hold.released then "ReleaseToken \x7b released: true \x7d" else "ReleaseToken \x7b released: false \x7d"

end Hold

/-- The permit for large replies: each grant of it is a hold, and there is only one at a time. -/
structure ReplyPermits where
  grants : List Hold := []
  deriving DecidableEq

namespace ReplyPermits

def available (permits : ReplyPermits) : Bool := permits.grants.all Hold.isFree

/-- Grants the permit without waiting: the grant's number, or nothing while it is out. -/
def acquire (permits : ReplyPermits) : Option (Nat × ReplyPermits) :=
  if permits.available then some (permits.grants.length, ⟨permits.grants ++ [({} : Hold)]⟩) else none

def busyMessage : String := "ISO-TP reply busy"

def modify (permits : ReplyPermits) (grant : Nat) (change : Hold → Hold) : ReplyPermits :=
  ⟨permits.grants.modify grant change⟩

end ReplyPermits

/-- Tokens handed out for grants of the permit, several for one grant after sharing. -/
structure TokenLedger where
  permits : ReplyPermits := {}
  /-- The grant of each token, in the order of handing out; nothing once it was dropped. -/
  tokens : List (Option Nat) := []

namespace TokenLedger

/-- Hands out a token for a new grant, unless the permit is out. -/
def acquire (ledger : TokenLedger) : Option (Nat × TokenLedger) :=
  ledger.permits.acquire.map fun (grant, permits) =>
    (ledger.tokens.length, ⟨permits, ledger.tokens ++ [some grant]⟩)

def grant? (ledger : TokenLedger) (token : Nat) : Option Nat := ledger.tokens[token]?.join

/-- Hands out a further token for the grant of another one; of a dropped token it is dropped, too. -/
def share (ledger : TokenLedger) (token : Nat) : Nat × TokenLedger :=
  match ledger.grant? token with
  | some grant =>
      (ledger.tokens.length, ⟨ledger.permits.modify grant Hold.share, ledger.tokens ++ [some grant]⟩)
  | none => (ledger.tokens.length, { ledger with tokens := ledger.tokens ++ [none] })

def release (ledger : TokenLedger) (token : Nat) : TokenLedger :=
  match ledger.grant? token with
  | some grant => { ledger with permits := ledger.permits.modify grant Hold.release }
  | none => ledger

def drop (ledger : TokenLedger) (token : Nat) : TokenLedger :=
  match ledger.grant? token with
  | some grant => ⟨ledger.permits.modify grant Hold.drop, ledger.tokens.set token none⟩
  | none => ledger

def holds (ledger : TokenLedger) : List (Option Hold) :=
  ledger.tokens.map fun token => token.bind fun grant => ledger.permits.grants[grant]?

end TokenLedger

end CameraBridge
