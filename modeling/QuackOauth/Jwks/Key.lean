import Mathlib.Data.List.Basic

/-!
# JSON web keys and clock comparison

The public-key record published by a JWKS endpoint, equality of key material for
single keys and for key lists, and the comparison of two clock readings that
tolerates small rewinds.
-/

namespace QuackOauth
namespace Jwks

/-- Public-key material in the shape published by a JWKS endpoint. -/
structure Jwk where
  kid : String
  /-- RSA, EC or OKP. -/
  kty : String
  alg : String := ""
  use : String := ""
  n : String := ""
  e : String := ""
  crv : String := ""
  x : String := ""
  y : String := ""
  deriving DecidableEq, Repr

/-- Two keys carry the same material; a `kty` of no known family never does. -/
def sameKeyMaterial (a b : Jwk) : Bool :=
  if a.kty ≠ b.kty ∨ a.alg ≠ b.alg ∨ a.use ≠ b.use then
    false
  else if a.kty = "RSA" then
    a.n = b.n && a.e = b.e
  else if a.kty = "EC" ∨ a.kty = "OKP" then
    a.crv = b.crv && a.x = b.x && a.y = b.y
  else
    false

/-- Remove from `rem`, for each key in turn, the first key of the same material. -/
def sameKeyMaterialRemaining : List Jwk → List Jwk → Bool
  | [], _ => true
  | ka :: rest, rem =>
      match rem.find? (sameKeyMaterial ka) with
      | none => false
      | some _ => sameKeyMaterialRemaining rest (rem.eraseP (sameKeyMaterial ka))

/-- Two key lists carry the same material, in any order. -/
def sameKeyMaterialList (a b : List Jwk) : Bool :=
  if a.length ≠ b.length then false else sameKeyMaterialRemaining a b

/-- A list holds a key of the same material as the given one. -/
def holdsMaterial (keys : List Jwk) (key : Jwk) : Bool :=
  keys.any fun existing => sameKeyMaterial existing key

theorem holdsMaterial_iff {keys : List Jwk} {key : Jwk} :
    holdsMaterial keys key = true ↔
      ∃ existing ∈ keys, sameKeyMaterial existing key = true := by
  simp [holdsMaterial]

/-! ## Constants and clocks -/

/-- Seconds between two outbound JWKS fetches of the process. -/
def kGlobalFetchBudgetWindowSeconds : Int := 2

/-- A rewind beyond this many seconds counts as a clock reset. -/
def kClockResetThresholdSeconds : Int := 60

/-- Keys kept per kid. -/
def kMaxKeysPerKid : Nat := 4

/-- How a clock reading relates to an earlier stamp. -/
inductive ClockRel
  | forward
  | minorRewind
  | reset
  deriving DecidableEq, Repr

/-- Compare a clock reading with a stamp. -/
def relateClock (nowS stampS : Int) : ClockRel :=
  if nowS ≥ stampS then .forward
  else if stampS - nowS ≤ kClockResetThresholdSeconds then .minorRewind
  else .reset

end Jwks
end QuackOauth
