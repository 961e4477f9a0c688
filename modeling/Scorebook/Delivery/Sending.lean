import Scorebook.Delivery.Batch
/-!
# Sending batches

Batches are sent in order, each as often as the policy allows until it is accepted.  The first batch that
is refused for good ends the delivery.
-/
namespace Scorebook

/-- One sending of a batch, and why it was refused, if it was. -/
structure Sending where
  batch : Batch
  refusal : Option String
deriving Inhabited

/-- A receiver of batches.  What it answers may depend on everything sent before; it answers with the
reason of a refusal, or with nothing. -/
abbrev Receiver := List Sending → Batch → Option String

/-- How a delivery went: everything that was sent, and the number of batches that were accepted or the
fault that ended it. -/
structure Delivery where
  sendings : List Sending
  result : Except Fault Nat

namespace Delivery

/-- How often a batch may be sent.  It is sent at least once. -/
def limit (p : RetryPolicy) : Nat := max p.attempts 1

def refused (b : Batch) (attempts : Nat) (reason : String) : Fault :=
  .deliveryFailed b.collection.name b.index attempts reason

/-- Sends a batch until it is accepted, at most `again` times after the first.  The answer is the reason of
the last refusal, if the batch was never accepted. -/
def send (receiver : Receiver) (b : Batch) : Nat → List Sending → List Sending × Option String
  | 0, sent =>
    let refusal := receiver sent b
    (sent ++ [⟨b, refusal⟩], refusal)
  | again + 1, sent =>
    match receiver sent b with
    | none => (sent ++ [⟨b, none⟩], none)
    | some reason => send receiver b again (sent ++ [⟨b, some reason⟩])

/-- Sends batches in order, after `accepted` ones. -/
def sendAll (receiver : Receiver) (p : RetryPolicy) :
    List Batch → List Sending → Nat → Delivery
  | [], sent, accepted => ⟨sent, .ok accepted⟩
  | b :: rest, sent, accepted =>
    match send receiver b (limit p - 1) sent with
    | (sent, none) => sendAll receiver p rest sent (accepted + 1)
    | (sent, some reason) => ⟨sent, .error (refused b (limit p) reason)⟩

def ofReport (r : Report) (receiver : Receiver) (size : Nat) (p : RetryPolicy) : Delivery :=
  sendAll receiver p (Batch.ofReport r size) [] 0

end Delivery

end Scorebook
