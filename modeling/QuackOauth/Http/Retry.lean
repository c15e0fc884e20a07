import QuackOauth.Http.Url
import QuackOauth.Lib.Retry

/-!
# The retrying client

A client around another, which repeats a request that found no server or a failing one.
What the callers see as one response is the last of a few, with a delay before each but the
first that doubles.
-/

namespace QuackOauth
namespace Http

open Lib

variable {World : Type*}

/-- An HTTP client.  What the network answers depends on the world, and while a request is
out the world goes on. -/
structure HttpClient (World : Type*) where
  get : String → World → Option Response × World
  post : PostRequest → World → Option Response × World

/-- Whether another attempt may help: nobody answered, or the server failed. -/
def shouldRetry : Option Response → Bool
  | none => true
  | some r => 500 ≤ r.statusCode && r.statusCode ≤ 599

structure RetryingHttpClient (World : Type*) where
  inner : HttpClient World
  maxRetries : Int := 1
  initialDelayMs : Nat := 1000
  /-- How to sleep, if at all. -/
  sleepFn : Option (Nat → World → World)

namespace RetryingHttpClient

/-- Sleep, if that is asked for. -/
def sleep (client : RetryingHttpClient World) (delayMs : Nat) (world : World) : World :=
  match client.sleepFn with
  | none => world
  | some sleepFn => sleepFn delayMs world

/-- A negative number of retries is none. -/
def retries (client : RetryingHttpClient World) : Nat :=
  client.maxRetries.toNat

def runWithRetries
    (client : RetryingHttpClient World)
    (call : World → Option Response × World)
    (world : World) : Option Response × World :=
  Retry.retryLoop call client.sleep shouldRetry client.retries client.initialDelayMs
    (call world)

/-- The retrying client is a client itself. -/
def client (client : RetryingHttpClient World) : HttpClient World where
  get url := client.runWithRetries (client.inner.get url)
  post req := client.runWithRetries (client.inner.post req)

/-- A run of attempts that ends with a result: each but the last found a failure, and the
last did not, or no further one was allowed. -/
structure EndsWith
    (client : RetryingHttpClient World)
    (call : World → Option Response × World)
    (world : World)
    (retried : Nat)
    (result : Option Response × World) : Prop where
  settles : Retry.Settles shouldRetry
    (fun k => (Retry.attempt call client.sleep client.initialDelayMs world k).1)
    client.retries retried
  result_eq : result = Retry.attempt call client.sleep client.initialDelayMs world retried
  /-- By then the client has slept for the delays of so many doublings. -/
  waits : ∀ clock : World → Nat,
    (∀ delay world, clock world + delay ≤ clock (client.sleep delay world)) →
    (∀ world, clock world ≤ clock (call world).2) →
      clock world + client.initialDelayMs * (2 ^ retried - 1) ≤ clock result.2

theorem endsWith_runWithRetries
    (client : RetryingHttpClient World)
    (call : World → Option Response × World)
    (world : World) :
    ∃ retried, client.EndsWith call world retried (client.runWithRetries call world) := by
  obtain ⟨retried, stops, settles⟩ : ∃ retried,
      Retry.retryLoop call client.sleep shouldRetry client.retries client.initialDelayMs
          (call world) =
        Retry.attempt call client.sleep client.initialDelayMs world retried ∧
      Retry.Settles shouldRetry
        (fun k => (Retry.attempt call client.sleep client.initialDelayMs world k).1)
        client.retries retried :=
    Retry.retryLoop_settles client.retries client.initialDelayMs (call world)
  refine ⟨retried, settles, stops, ?_⟩
  intro clock sleeps calls
  have waited : clock (call world).2 + client.initialDelayMs * (2 ^ retried - 1) ≤
      clock (Retry.attempt call client.sleep client.initialDelayMs world retried).2 :=
    Retry.clock_attemptFrom clock sleeps calls retried
  have called := calls world
  unfold runWithRetries
  rw [stops]
  omega

/-- Every request of the retrying client ends with one number of retries, within the limit:
it gives the answer of the first attempt that found no failure, or of the last one. -/
theorem client_endsWith
    (client : RetryingHttpClient World)
    (url : String)
    (req : PostRequest)
    (world : World) :
    (∃! retried, client.EndsWith (client.inner.get url) world retried
      (client.client.get url world)) ∧
    ∃! retried, client.EndsWith (client.inner.post req) world retried
      (client.client.post req world) := by
  have ends (call : World → Option Response × World) :
      ∃! retried, client.EndsWith call world retried (client.runWithRetries call world) := by
    obtain ⟨retried, endsWith⟩ := client.endsWith_runWithRetries call world
    exact ⟨retried, endsWith, fun other otherEnds =>
      otherEnds.settles.unique endsWith.settles⟩
  exact ⟨ends _, ends _⟩

end RetryingHttpClient

-- The second attempt finds the server again.
example :
    ({ inner := {
          get := fun _ world => (if world = 0 then none else some ⟨200, ""⟩, world + 1)
          post := fun _ world => (none, world) }
       sleepFn := none } : RetryingHttpClient Nat).client.get "https://idp.test/jwks" 0 =
      (some ⟨200, ""⟩, 2) := by
  decide

end Http
end QuackOauth
